import OriginGame.ItemLogic
import OriginGame.Runs

namespace OriginGame.ItemLogic

-- The calls of ItemLogic one at a time. A number may be what a client sent, so it may
-- be zero or less.
structure Add where
  itemId : Nat
  itemNum : Option Int
  exclusive : Option Nat
  deriving DecidableEq, Repr

def Add.num (args : Add) : Int := args.itemNum.getD 1

section Calls
variable (config : Nat → Option SItem) (rid : Nat) (order : Order Nat)

-- Equipment does not stack.
def addEquips (args : Add) : Nat → Bag → Bag
  | 0,bag => bag
  | left+1,bag => addEquips args left (dAdd bag (initItem rid args.itemId (getFreeItemIndex bag) 1 args.exclusive))

def addStack (args : Add) (bag : Bag) : Bag :=
  match sameItem order args.itemId bag with
  | some (itemIndex,itemInfo) => dSet bag itemIndex (itemInfo.overlay+args.num)
  | none => dAdd bag (initItem rid args.itemId (getFreeItemIndex bag) args.num args.exclusive)

def addItem (args : Add) (bag : Bag) : Bag :=
  match config args.itemId with
  | none => bag
  | some item =>
    if item.type = .head then bag
    else if isEquipItem item.subType then addEquips rid args args.num.toNat bag
    else addStack rid order args bag

-- A slot without item raises.
def delItem (itemIndex : Nat) (itemNum : Int) (bag : Bag) : Option Bag :=
  (bag.lookup itemIndex).map (fun itemInfo =>
    if itemInfo.overlay ≤ itemNum then dDelete bag itemIndex else dSet bag itemIndex (itemInfo.overlay-itemNum))

def checkItemEnough (itemId : Nat) (itemNum : Int) (bag : Bag) : Bool × Int :=
  match sameItem order itemId bag with
  | some (_,itemInfo) => (decide (itemNum ≤ itemInfo.overlay),itemInfo.overlay)
  | none => (false,0)

def delItemById (itemId : Nat) (itemNum : Int) (bag : Bag) : Option Bag :=
  match sameItem order itemId bag with
  | some (itemIndex,_) => delItem itemIndex itemNum bag
  | none => some bag

inductive Call where
  | addItem (args : Add)
  | delItem (itemIndex : Nat) (itemNum : Int)
  | delItemById (itemId : Nat) (itemNum : Int)
  deriving DecidableEq, Repr

def Call.run (call : Call) (bag : Bag) : Bag :=
  match call with
  | .addItem args => ItemLogic.addItem config rid order args bag
  | .delItem itemIndex itemNum => (ItemLogic.delItem itemIndex itemNum bag).getD bag
  | .delItemById itemId itemNum => (ItemLogic.delItemById order itemId itemNum bag).getD bag

def OneByOne (bag : Bag) (call : Call) (after : Bag) : Prop := ∃ order, after = call.run config rid order bag

end Calls

-- What holds of every entry.
def Each (holds : Nat → ItemInfo → Prop) (bag : Bag) : Prop := ∀ i item, bag.lookup i = some item → holds i item

def Indexed : Bag → Prop := Each (fun i item => item.itemIndex = i)

def Single (config : Nat → Option SItem) : Bag → Prop := Each (fun _ item => isEquipId config item.itemId = true → item.overlay = 1)

def Positive : Bag → Prop := Each (fun _ item => 1 ≤ item.overlay)

section Each
variable {config : Nat → Option SItem} {rid : Nat} {order : Order Nat} {holds : Nat → ItemInfo → Prop} {bag after : Bag} {args : Add}

theorem dAdd_each (each : Each holds bag) (new : holds itemInfo.itemIndex itemInfo) : Each holds (dAdd bag itemInfo) := by
  intro i item found
  cases dAdd_lookup found with
  | inl here =>
    obtain ⟨place,same⟩ := here
    subst same
    exact place ▸ new
  | inr old => exact each i item old.2

theorem dSet_each (each : Each holds bag) (set : ∀ item, bag.lookup itemIndex = some item → holds itemIndex {item with overlay}) :
    Each holds (dSet bag itemIndex overlay) := by
  intro i item found
  unfold dSet at found
  cases held : bag.lookup itemIndex with
  | none =>
    rw [held] at found
    exact each i item found
  | some itemInfo =>
    rw [held] at found
    cases Table.found_insert found with
    | inl here =>
      obtain ⟨place,same⟩ := here
      subst place same
      exact set itemInfo held
    | inr old => exact each i item old.2

theorem dDelete_each (each : Each holds bag) : Each holds (dDelete bag itemIndex) := fun i item found => each i item (dDelete_lookup found)

theorem addEquips_each (new : ∀ i, holds i (initItem rid args.itemId i 1 args.exclusive)) (left : Nat) (each : Each holds bag) :
    Each holds (addEquips rid args left bag) := by
  induction left generalizing bag with
  | zero => exact each
  | succ left ih => exact ih (dAdd_each each (new _))

theorem addStack_each (grows : ∀ i item, holds i item → item.itemId = args.itemId → holds i {item with overlay:=item.overlay+args.num})
    (new : ∀ i, holds i (initItem rid args.itemId i args.num args.exclusive)) (each : Each holds bag) :
    Each holds (addStack rid order args bag) := by
  unfold addStack
  cases found : sameItem order args.itemId bag with
  | none => exact dAdd_each each (new _)
  | some stack =>
    obtain ⟨held,same⟩ := sameItem_found found
    refine dSet_each each (fun item there => ?_)
    cases held.symm.trans there
    exact grows _ _ (each _ _ held) same

theorem addItem_each (equips : isEquipId config args.itemId = true → ∀ i, holds i (initItem rid args.itemId i 1 args.exclusive))
    (grows : isEquipId config args.itemId = false → ∀ i item, holds i item → item.itemId = args.itemId → holds i {item with overlay:=item.overlay+args.num})
    (new : isEquipId config args.itemId = false → ∀ i, holds i (initItem rid args.itemId i args.num args.exclusive)) (each : Each holds bag) :
    Each holds (addItem config rid order args bag) := by
  unfold addItem
  cases there : config args.itemId with
  | none => exact each
  | some item =>
    have equip : isEquipId config args.itemId = isEquipItem item.subType := by simp [isEquipId,there]
    dsimp only
    split
    · exact each
    · split
      · next plain => exact addEquips_each (equips (equip.trans plain)) _ each
      · next plain =>
        have none : isEquipId config args.itemId = false := equip.trans (Bool.not_eq_true _ ▸ plain)
        exact addStack_each (grows none) (new none) each

theorem delItem_each (shrinks : ∀ i item, holds i item → itemNum < item.overlay → holds i {item with overlay:=item.overlay-itemNum})
    (each : Each holds bag) (deleted : delItem itemIndex itemNum bag = some after) : Each holds after := by
  obtain ⟨itemInfo,held,same⟩ := Option.map_eq_some_iff.mp deleted
  subst same
  split
  · exact dDelete_each each
  · next more =>
    refine dSet_each each (fun item there => ?_)
    cases held.symm.trans there
    exact shrinks _ _ (each _ _ held) (not_le.mp more)

theorem delItemById_deletes (order : Order Nat) (itemId : Nat) (itemNum : Int) (bag : Bag) :
    delItemById order itemId itemNum bag = some bag ∨ ∃ itemIndex, delItemById order itemId itemNum bag = delItem itemIndex itemNum bag := by
  unfold delItemById
  split
  · exact .inr ⟨_,rfl⟩
  · exact .inl rfl

-- A call that raises leaves the bag alone.
theorem getD_kept (kept : Bag → Prop) {result : Option Bag} (old : kept bag) (new : ∀ after, result = some after → kept after) :
    kept (result.getD bag) := by
  cases result with
  | none => exact old
  | some after => exact new after rfl

theorem delItemById_each (shrinks : ∀ i item, holds i item → itemNum < item.overlay → holds i {item with overlay:=item.overlay-itemNum})
    (each : Each holds bag) (deleted : delItemById order itemId itemNum bag = some after) : Each holds after := by
  cases delItemById_deletes order itemId itemNum bag with
  | inl nothing =>
    cases nothing.symm.trans deleted
    exact each
  | inr taken =>
    obtain ⟨itemIndex,same⟩ := taken
    exact delItem_each shrinks each (same.symm.trans deleted)

-- What a call writes keeps what holds of every entry.
def Call.Fits (config : Nat → Option SItem) (rid : Nat) (holds : Nat → ItemInfo → Prop) : Call → Prop
  | .addItem args =>
    (isEquipId config args.itemId = true → ∀ i, holds i (initItem rid args.itemId i 1 args.exclusive)) ∧
      (isEquipId config args.itemId = false → (∀ i, holds i (initItem rid args.itemId i args.num args.exclusive)) ∧
        ∀ i item, holds i item → item.itemId = args.itemId → holds i {item with overlay:=item.overlay+args.num})
  | .delItem _ itemNum | .delItemById _ itemNum =>
    ∀ i item, holds i item → itemNum < item.overlay → holds i {item with overlay:=item.overlay-itemNum}

theorem call_each {call : Call} (fits : call.Fits config rid holds) (each : Each holds bag) : Each holds (call.run config rid order bag) := by
  cases call with
  | addItem args =>
    obtain ⟨equips,piles⟩ := fits
    exact addItem_each equips (fun plain => (piles plain).2) (fun plain => (piles plain).1) each
  | delItem itemIndex itemNum => exact getD_kept (Each holds) each (fun after deleted => delItem_each fits each deleted)
  | delItemById itemId itemNum => exact getD_kept (Each holds) each (fun after deleted => delItemById_each fits each deleted)

-- A deletion for less than nothing would add to a stack.
def Call.Takes : Call → Prop
  | .addItem _ => True
  | .delItem _ itemNum | .delItemById _ itemNum => 0 ≤ itemNum

-- An addition of nothing leaves an empty stack.
def Call.Gives : Call → Prop
  | .addItem args => 1 ≤ args.num
  | _ => True

instance : (call : Call) → Decidable call.Takes
  | .addItem _ => isTrue trivial
  | .delItem _ itemNum | .delItemById _ itemNum => inferInstanceAs (Decidable (0 ≤ itemNum))

instance : (call : Call) → Decidable call.Gives
  | .addItem args => inferInstanceAs (Decidable (1 ≤ args.num))
  | .delItem _ _ | .delItemById _ _ => isTrue trivial

theorem fits_indexed (call : Call) : call.Fits config rid (fun i item => item.itemIndex = i) := by
  cases call with
  | addItem args => exact ⟨fun _ _ => rfl,fun _ => ⟨fun _ => rfl,fun _ _ same _ => same⟩⟩
  | delItem itemIndex itemNum => exact fun _ _ same _ => same
  | delItemById itemId itemNum => exact fun _ _ same _ => same

theorem fits_single {call : Call} (takes : call.Takes) :
    call.Fits config rid (fun _ item => isEquipId config item.itemId = true → item.overlay = 1) := by
  have shrinks (num : Int) (count : 0 ≤ num) : ∀ i : Nat, ∀ item : ItemInfo, (isEquipId config item.itemId = true → item.overlay = 1) →
      num < item.overlay → isEquipId config item.itemId = true → item.overlay-num = 1 := by
    intro i item single more equip
    have one := single equip
    omega
  cases call with
  | addItem args =>
    refine ⟨fun _ _ _ => rfl,fun plain => ⟨fun i equip => ?_,fun i item _ same equip => ?_⟩⟩
    · exact absurd (plain.symm.trans equip) Bool.false_ne_true
    · exact absurd (plain.symm.trans (same ▸ equip)) Bool.false_ne_true
  | delItem itemIndex itemNum => exact shrinks itemNum takes
  | delItemById itemId itemNum => exact shrinks itemNum takes

theorem fits_positive {call : Call} (gives : call.Gives) : call.Fits config rid (fun _ item => 1 ≤ item.overlay) := by
  cases call with
  | addItem args =>
    have more : 1 ≤ args.num := gives
    refine ⟨fun _ _ => le_refl 1,fun _ => ⟨fun _ => more,fun i item positive _ => ?_⟩⟩
    dsimp only
    omega
  | delItem itemIndex itemNum =>
    intro i item _ more
    dsimp only
    omega
  | delItemById itemId itemNum =>
    intro i item _ more
    dsimp only
    omega

end Each

section Stacks
variable {config : Nat → Option SItem} {rid : Nat} {order : Order Nat} {bag after : Bag} {args : Add}

theorem addEquips_oneStack (equip : isEquipId config args.itemId = true) (left : Nat) (one : OneStack config bag) :
    OneStack config (addEquips rid args left bag) := by
  induction left generalizing bag with
  | zero => exact one
  | succ left ih => exact ih (dAdd_oneStack one (.inl equip))

theorem addItem_oneStack (one : OneStack config bag) : OneStack config (addItem config rid order args bag) := by
  unfold addItem
  cases there : config args.itemId with
  | none => exact one
  | some item =>
    dsimp only
    split
    · exact one
    · split
      · next plain =>
        have equip : isEquipId config args.itemId = true := by simpa [isEquipId,there] using plain
        intro i j first other
        exact addEquips_oneStack equip args.num.toNat one
      · unfold addStack
        cases found : sameItem order args.itemId bag with
        | none => exact dAdd_oneStack one (.inr (fun _ _ held => sameItem_missing found held))
        | some stack => exact dSet_oneStack one

theorem delItem_oneStack (one : OneStack config bag) (deleted : delItem itemIndex itemNum bag = some after) : OneStack config after := by
  obtain ⟨itemInfo,_,same⟩ := Option.map_eq_some_iff.mp deleted
  subst same
  split
  · exact dDelete_oneStack one
  · exact dSet_oneStack one

theorem call_oneStack (call : Call) (one : OneStack config bag) : OneStack config (call.run config rid order bag) := by
  intro i j item other
  cases call with
  | addItem args => exact addItem_oneStack one
  | delItem itemIndex itemNum => exact getD_kept (OneStack config) one (fun after deleted => delItem_oneStack one deleted)
  | delItemById itemId itemNum =>
    refine getD_kept (OneStack config) one (fun after deleted => ?_)
    cases delItemById_deletes order itemId itemNum bag with
    | inl nothing =>
      cases nothing.symm.trans deleted
      exact one
    | inr taken =>
      obtain ⟨itemIndex,same⟩ := taken
      exact delItem_oneStack one (same.symm.trans deleted)

end Stacks

section Sums
variable {config : Nat → Option SItem} {rid : Nat} {order : Order Nat} {bag after : Bag} {args : Add}

theorem total_addEquips (left : Nat) (bag : Bag) : total args.itemId (addEquips rid args left bag) = total args.itemId bag+left := by
  induction left generalizing bag with
  | zero => simp [addEquips]
  | succ left ih =>
    have one : total args.itemId (dAdd bag (initItem rid args.itemId (getFreeItemIndex bag) 1 args.exclusive)) = total args.itemId bag+1 := by
      rw [total_dAdd]
      · simp [initItem]
      · exact getFreeItemIndex_free bag
    rw [addEquips,ih,one]
    omega

theorem total_addStack (bag : Bag) : total args.itemId (addStack rid order args bag) = total args.itemId bag+args.num := by
  unfold addStack
  cases found : sameItem order args.itemId bag with
  | none =>
    rw [total_dAdd]
    · simp [initItem]
    · exact getFreeItemIndex_free bag
  | some stack =>
    obtain ⟨held,same⟩ := sameItem_found found
    dsimp only
    rw [total_dSet args.itemId ⟨stack.2,held,rfl,rfl⟩,if_pos same]
    omega

theorem addItem_total (known : config args.itemId = some item) (plain : item.type ≠ .head)
    (count : isEquipItem item.subType = true → 0 ≤ args.num) (bag : Bag) :
    total args.itemId (addItem config rid order args bag) = total args.itemId bag+args.num := by
  simp only [addItem,known]
  rw [if_neg plain]
  split
  · next equip =>
    rw [total_addEquips,Int.toNat_of_nonneg (count equip)]
  · exact total_addStack bag

theorem addItem_other (other : ∀ item, config args.itemId = some item → item.type = .head) (bag : Bag) : addItem config rid order args bag = bag := by
  unfold addItem
  cases known : config args.itemId with
  | none => rfl
  | some item => exact if_pos (other item known)

-- A stack that is large enough loses what is asked for, even if it is the whole stack.
theorem delItem_total (held : bag.lookup itemIndex = some itemInfo) (enough : itemNum ≤ itemInfo.overlay) :
    ∃ after, delItem itemIndex itemNum bag = some after ∧ total itemInfo.itemId after = total itemInfo.itemId bag-itemNum := by
  refine ⟨_,Option.map_eq_some_iff.mpr ⟨itemInfo,held,rfl⟩,?_⟩
  split
  · rw [total_dDelete itemInfo.itemId ⟨itemInfo,held,rfl,rfl⟩,if_pos rfl]
    omega
  · rw [total_dSet itemInfo.itemId ⟨itemInfo,held,rfl,rfl⟩,if_pos rfl]
    omega

theorem delItemById_total (one : OneStack config bag) (plain : isEquipId config itemId = false) (order later : Order Nat)
    (enough : (checkItemEnough order itemId itemNum bag).1 = true) :
    ∃ after, delItemById later itemId itemNum bag = some after ∧ total itemId after = total itemId bag-itemNum := by
  unfold checkItemEnough at enough
  cases first : sameItem order itemId bag with
  | none => simp [first] at enough
  | some stack =>
    obtain ⟨held,same⟩ := sameItem_found first
    rw [first] at enough
    have more : itemNum ≤ stack.2.overlay := of_decide_eq_true enough
    unfold delItemById
    cases again : sameItem later itemId bag with
    | none => exact absurd same (sameItem_missing again held)
    | some found =>
      obtain ⟨there,alike⟩ := sameItem_found again
      have place : found.1 = stack.1 := one there held (alike.trans same.symm) (alike ▸ plain)
      dsimp only
      rw [place]
      exact same ▸ delItem_total held more

end Sums

section Runs
variable {config : Nat → Option SItem} {rid : Nat} {order : Order Nat} {calls : List Call} {bag : Bag}

theorem run_each {holds : Nat → ItemInfo → Prop} (fits : ∀ call ∈ calls, Call.Fits config rid holds call)
    (path : Runs (OneByOne config rid) ∅ calls bag) : Each holds bag := by
  refine Runs.invariant (fun before call after each acts => ?_) (path.guarded fits) (fun i item found => ?_)
  · obtain ⟨⟨order,same⟩,fit⟩ := acts
    exact same ▸ call_each fit each
  · rw [AList.lookup_empty] at found
    cases found

theorem run_oneStack (path : Runs (OneByOne config rid) ∅ calls bag) : OneStack config bag := by
  have kept (before : Bag) (call : Call) (after : Bag) (one : OneStack config before) (acts : OneByOne config rid before call after) :
      OneStack config after := by
    obtain ⟨order,same⟩ := acts
    exact same ▸ call_oneStack call one
  have start : OneStack config ∅ := by
    intro i j item other found
    rw [AList.lookup_empty] at found
    cases found
  intro i j item other
  exact path.invariant kept start

theorem bag_kept (path : Runs (OneByOne config rid) ∅ calls bag) :
    Indexed bag ∧ OneStack config bag ∧
    ((∀ call ∈ calls, call.Takes) → Single config bag) ∧
    ((∀ call ∈ calls, call.Gives) → Positive bag) ∧
    (∀ order args item, config args.itemId = some item → item.type ≠ .head → (isEquipItem item.subType = true → 0 ≤ args.num) →
      total args.itemId (addItem config rid order args bag) = total args.itemId bag+args.num) ∧
    (∀ order args, (∀ item, config args.itemId = some item → item.type = .head) → addItem config rid order args bag = bag) ∧
    (∀ order later itemId itemNum, isEquipId config itemId = false → (checkItemEnough order itemId itemNum bag).1 = true →
      ∃ after, delItemById later itemId itemNum bag = some after ∧ total itemId after = total itemId bag-itemNum) := by
  have one := @run_oneStack _ _ _ _ path
  refine ⟨run_each (fun call _ => fits_indexed call) path,one,fun takes => run_each (fun call mem => fits_single (takes call mem)) path,
    fun gives => run_each (fun call mem => fits_positive (gives call mem)) path,?_,?_,?_⟩
  · intro order args item known plain count
    exact addItem_total known plain count bag
  · intro order args other
    exact addItem_other other bag
  · intro order later itemId itemNum plain enough
    exact delItemById_total one plain order later enough

-- Item 5 is a head.
def wardrobe : Nat → Option SItem
  | 5 => some ⟨.head,.other 60101⟩
  | itemId => catalogue itemId

def deliveries : List Call := [.addItem ⟨7,some 3,none⟩,.addItem ⟨9,some 2,none⟩,.delItemById 7 1,.delItem 2 1]

theorem deliveries_run : Runs (OneByOne wardrobe 1) ∅ deliveries (deliveries.foldl (fun bag call => call.run wardrobe 1 .stored bag) ∅) :=
  .more ⟨.stored,rfl⟩ (.more ⟨.stored,rfl⟩ (.more ⟨.stored,rfl⟩ (.more ⟨.stored,rfl⟩ .done)))

theorem deliveries_kept : Indexed (deliveries.foldl (fun bag call => call.run wardrobe 1 .stored bag) ∅) ∧
    Single wardrobe (deliveries.foldl (fun bag call => call.run wardrobe 1 .stored bag) ∅) ∧
    Positive (deliveries.foldl (fun bag call => call.run wardrobe 1 .stored bag) ∅) := by
  obtain ⟨indexed,_,single,positive,_⟩ := bag_kept deliveries_run
  exact ⟨indexed,single (by decide),positive (by decide)⟩

-- A head is unlocked and never in the bag. No call checks its number: adding nothing
-- leaves an empty stack, and deleting less than nothing piles up equipment.
theorem bag_broken :
    (¬ ∀ (config : Nat → Option SItem) (rid : Nat) (calls : List Call) (bag : Bag), Runs (OneByOne config rid) ∅ calls bag →
      ∀ (order : Order Nat) (args : Add), 1 ≤ args.num →
        total args.itemId (addItem config rid order args bag) = total args.itemId bag+args.num) ∧
    (¬ ∀ (config : Nat → Option SItem) (rid : Nat) (calls : List Call) (bag : Bag), Runs (OneByOne config rid) ∅ calls bag → Positive bag) ∧
    (¬ ∀ (config : Nat → Option SItem) (rid : Nat) (calls : List Call) (bag : Bag), Runs (OneByOne config rid) ∅ calls bag → Single config bag) := by
  refine ⟨fun raises => ?_,fun positive => ?_,fun single => ?_⟩
  · have same := raises wardrobe 1 [] ∅ .done .stored ⟨5,some 1,none⟩ (by decide)
    exact absurd same (by decide)
  · have bag := positive wardrobe 1 [.addItem ⟨7,some 0,none⟩] _ (.more ⟨.stored,rfl⟩ .done)
    exact absurd (bag 1 (rowOf 1 7 0) (by decide)) (by decide)
  · have bag := single wardrobe 1 [.addItem ⟨9,some 1,none⟩,.delItem 1 (-1)] _ (.more ⟨.stored,rfl⟩ (.more ⟨.stored,rfl⟩ .done))
    exact absurd (bag 1 (rowOf 1 9 2) (by decide) (by decide)) (by decide)

end Runs

end OriginGame.ItemLogic
