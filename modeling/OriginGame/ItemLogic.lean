import OriginGame.Handlers
import OriginGame.LuaTable

namespace OriginGame.ItemLogic

-- A row of d_item. itemIndex repeats its key.
structure ItemInfo where
  itemIndex : Nat
  itemId : Nat
  overlay : Int
  rid : Nat
  exclusive : Option Nat
  heroId : Nat
  deriving DecidableEq, Repr

abbrev Bag := Table Nat ItemInfo

inductive ItemType where
  | resource | speed | gain | equip | other | head
  deriving DecidableEq, Repr

inductive ItemSubType where
  | arms | helmet | breastplate | gloves | pants | shoes | accessories | other (code : Nat)
  deriving DecidableEq, Repr

-- s_Item, under its ID.
structure SItem where
  type : ItemType
  subType : ItemSubType
  deriving DecidableEq, Repr

def isEquipItem : ItemSubType → Bool
  | .other _ => false
  | _ => true

def isEquipId (config : Nat → Option SItem) (itemId : Nat) : Bool := (config itemId).any (fun item => isEquipItem item.subType)

section DItem

def dSet (bag : Bag) (itemIndex : Nat) (overlay : Int) : Bag :=
  match bag.lookup itemIndex with
  | some itemInfo => bag.insert itemIndex {itemInfo with overlay:=overlay}
  | none => bag

def dAdd (bag : Bag) (itemInfo : ItemInfo) : Bag := bag.insert itemInfo.itemIndex itemInfo

def dDelete (bag : Bag) (itemIndex : Nat) : Bag := bag.erase itemIndex

end DItem

def initItem (rid itemId itemIndex : Nat) (overlay : Int) (exclusive : Option Nat) : ItemInfo :=
  ⟨itemIndex,itemId,overlay,rid,exclusive,0⟩

def getFreeItemIndex (items : Bag) : Nat :=
  (((List.range items.entries.length).map (·+1)).find? (fun i => (items.lookup i).isNone)).getD (items.entries.length+1)

structure AddArgs where
  itemId : Nat
  itemNum : Option Nat
  exclusive : Option Nat
  deriving DecidableEq, Repr

def AddArgs.num (args : AddArgs) : Nat := args.itemNum.getD 1

inductive Request where
  | addItem (args : AddArgs)
  | delItem (itemIndex itemNum : Nat)
  deriving DecidableEq, Repr

-- The next request to d_item, with what the call has read before.
inductive Task where
  | addGet (args : AddArgs) (equip : Bool)
  | addSet (itemIndex : Nat) (itemInfo : ItemInfo) (itemNum : Nat)
  | addNew (itemInfo : ItemInfo)
  | equipGet (args : AddArgs) (left : Nat)
  | equipAdd (args : AddArgs) (itemIndex left : Nat)
  | delGet (itemIndex itemNum : Nat)
  | delSet (itemIndex : Nat) (itemInfo : ItemInfo) (newNum : Int)
  | delDelete (itemIndex : Nat) (itemInfo : ItemInfo)
  deriving DecidableEq, Repr

-- Beside the bag, the amounts asked for: of an add when it is called, of a delete
-- when it has read what there is.
structure Shared where
  bag : Bag
  added : Nat → Int
  removed : Nat → Int

def book (amounts : Nat → Int) (itemId : Nat) (amount : Int) : Nat → Int :=
  fun other => if other = itemId then amounts other+amount else amounts other

def sameItem (order : Order Nat) (itemId : Nat) (items : Bag) : Option (Nat × ItemInfo) :=
  (order.visit items.keys).findSome? (fun index =>
    (items.lookup index).bind (fun item => if item.itemId = itemId then some (index,item) else none))

-- A head item unlocks a head of the role instead.
def enter (config : Nat → Option SItem) (request : Request) (s : Shared) : Shared × Option Task :=
  match request with
  | .addItem args =>
    match config args.itemId with
    | none => (s,none)
    | some item =>
      if item.type = .head then (s,none)
      else ({s with added:=book s.added args.itemId args.num},some (.addGet args (isEquipItem item.subType)))
  | .delItem itemIndex itemNum => (s,some (.delGet itemIndex itemNum))

def equipLoop (args : AddArgs) : Nat → Option Task
  | 0 => none
  | left+1 => some (.equipGet args left)

-- delItem of a slot without item raises at the comparison.
def resume (rid : Nat) (order : Order Nat) (task : Task) (s : Shared) : Shared × Option Task :=
  match task with
  | .addGet args equip =>
    if equip then (s,equipLoop args args.num)
    else
      match sameItem order args.itemId s.bag with
      | some (itemIndex,itemInfo) => (s,some (.addSet itemIndex itemInfo args.num))
      | none => (s,some (.addNew (initItem rid args.itemId (getFreeItemIndex s.bag) args.num args.exclusive)))
  | .addSet itemIndex itemInfo itemNum => ({s with bag:=dSet s.bag itemIndex (itemInfo.overlay+itemNum)},none)
  | .addNew itemInfo => ({s with bag:=dAdd s.bag itemInfo},none)
  | .equipGet args left => (s,some (.equipAdd args (getFreeItemIndex s.bag) left))
  | .equipAdd args itemIndex left =>
    ({s with bag:=dAdd s.bag (initItem rid args.itemId itemIndex 1 args.exclusive)},equipLoop args left)
  | .delGet itemIndex itemNum =>
    match s.bag.lookup itemIndex with
    | none => (s,none)
    | some itemInfo =>
      if itemInfo.overlay ≤ itemNum then
        ({s with removed:=book s.removed itemInfo.itemId itemInfo.overlay},some (.delDelete itemIndex itemInfo))
      else
        ({s with removed:=book s.removed itemInfo.itemId itemNum},
          some (.delSet itemIndex itemInfo (itemInfo.overlay-itemNum)))
  | .delSet itemIndex _ newNum => ({s with bag:=dSet s.bag itemIndex newNum},none)
  | .delDelete itemIndex _ => ({s with bag:=dDelete s.bag itemIndex},none)

def start (bag : Bag) : Service Shared Task := ⟨⟨bag,fun _ => 0,fun _ => 0⟩,[]⟩

abbrev Acts (config : Nat → Option SItem) (rid : Nat) := Interleaves (enter config) (resume rid)

section Totals

def total (itemId : Nat) (bag : Bag) : Int := Table.sumOver (fun item => if item.itemId = itemId then item.overlay else 0) bag

-- What a call has booked and not written.
def due (itemId : Nat) : Task → Int
  | .addGet args _ => if args.itemId = itemId then args.num else 0
  | .addSet _ itemInfo itemNum => if itemInfo.itemId = itemId then itemNum else 0
  | .addNew itemInfo => if itemInfo.itemId = itemId then itemInfo.overlay else 0
  | .equipGet args left | .equipAdd args _ left => if args.itemId = itemId then left+1 else 0
  | .delGet _ _ => 0
  | .delSet _ itemInfo newNum => if itemInfo.itemId = itemId then newNum-itemInfo.overlay else 0
  | .delDelete _ itemInfo => if itemInfo.itemId = itemId then -itemInfo.overlay else 0

-- The slot is as the call has read it.
def Unchanged (bag : Bag) (itemIndex : Nat) (itemInfo : ItemInfo) : Prop :=
  ∃ now, bag.lookup itemIndex = some now ∧ now.itemId = itemInfo.itemId ∧ now.overlay = itemInfo.overlay

def Undisturbed (s : Shared) : Event Request Task (Order Nat) → Prop
  | .resume (.addSet itemIndex itemInfo _) _ | .resume (.delSet itemIndex itemInfo _) _
  | .resume (.delDelete itemIndex itemInfo) _ => Unchanged s.bag itemIndex itemInfo
  | .resume (.addNew itemInfo) _ => s.bag.lookup itemInfo.itemIndex = none ∧
      ∀ index item, s.bag.lookup index = some item → item.itemId ≠ itemInfo.itemId
  | .resume (.equipAdd _ itemIndex _) _ => s.bag.lookup itemIndex = none
  | _ => True

instance : Decidable (Unchanged bag itemIndex itemInfo) :=
  match found : bag.lookup itemIndex with
  | none => isFalse (fun ⟨_,held,_⟩ => by rw [found] at held; cases held)
  | some now => decidable_of_iff (now.itemId = itemInfo.itemId ∧ now.overlay = itemInfo.overlay)
      ⟨fun same => ⟨now,found,same⟩,fun ⟨_,held,same⟩ => by rw [found] at held; cases held; exact same⟩

instance (bag : Bag) (itemId : Nat) : Decidable (∀ index item, bag.lookup index = some item → item.itemId ≠ itemId) :=
  decidable_of_iff (∀ entry ∈ bag.entries, entry.2.itemId ≠ itemId)
    ⟨fun each index item held => each ⟨index,item⟩ (AList.mem_lookup_iff.mp held),
      fun each entry mem => each entry.1 entry.2 (AList.mem_lookup_iff.mpr mem)⟩

instance (s : Shared) : (event : Event Request Task (Order Nat)) → Decidable (Undisturbed s event)
  | .call _ | .resume (.addGet _ _) _ | .resume (.equipGet _ _) _ | .resume (.delGet _ _) _ => isTrue trivial
  | .resume (.addSet itemIndex itemInfo _) _ | .resume (.delSet itemIndex itemInfo _) _
  | .resume (.delDelete itemIndex itemInfo) _ => inferInstanceAs (Decidable (Unchanged s.bag itemIndex itemInfo))
  | .resume (.addNew itemInfo) _ => inferInstanceAs (Decidable (s.bag.lookup itemInfo.itemIndex = none ∧
      ∀ index item, s.bag.lookup index = some item → item.itemId ≠ itemInfo.itemId))
  | .resume (.equipAdd _ itemIndex _) _ => inferInstanceAs (Decidable (s.bag.lookup itemIndex = none))

theorem total_dAdd (itemId : Nat) (free : bag.lookup itemInfo.itemIndex = none) :
    total itemId (dAdd bag itemInfo) = total itemId bag+if itemInfo.itemId = itemId then itemInfo.overlay else 0 := by
  unfold total dAdd
  rw [Table.sumOver_insert,Table.amount_none free]
  omega

theorem total_dSet (itemId : Nat) (unchanged : Unchanged bag itemIndex itemInfo) (overlay : Int) :
    total itemId (dSet bag itemIndex overlay) =
      total itemId bag+if itemInfo.itemId = itemId then overlay-itemInfo.overlay else 0 := by
  obtain ⟨now,found,same,stays⟩ := unchanged
  unfold total dSet
  rw [found]
  dsimp only
  rw [Table.sumOver_insert,Table.amount_some found]
  dsimp only
  rw [same,stays]
  split <;> omega

theorem total_dDelete (itemId : Nat) (unchanged : Unchanged bag itemIndex itemInfo) :
    total itemId (dDelete bag itemIndex) = total itemId bag-if itemInfo.itemId = itemId then itemInfo.overlay else 0 := by
  obtain ⟨now,found,same,stays⟩ := unchanged
  unfold total dDelete
  rw [Table.sumOver_erase,Table.amount_some found,same,stays]

theorem sameItem_found (found : sameItem order itemId items = some (index,item)) :
    items.lookup index = some item ∧ item.itemId = itemId := by
  obtain ⟨visited,_,there⟩ := List.exists_of_findSome?_eq_some found
  obtain ⟨stored,held,chosen⟩ := Option.bind_eq_some_iff.mp there
  split at chosen
  · cases chosen
    exact ⟨held,‹_›⟩
  · cases chosen

theorem sameItem_missing (missing : sameItem order itemId items = none) (held : items.lookup index = some item) :
    item.itemId ≠ itemId := by
  intro same
  have visited : index ∈ order.visit items.keys := by
    rw [order.mem_visit]
    exact Table.mem_of_lookup held
  have none := List.findSome?_eq_none_iff.mp missing index visited
  rw [held,Option.bind_some,if_pos same] at none
  cases none

def balance (itemId : Nat) (s : Shared) : Int := total itemId s.bag-s.added itemId+s.removed itemId

theorem due_equipLoop (args : AddArgs) (left : Nat) :
    ((equipLoop args left).map (due itemId)).getD 0 = if args.itemId = itemId then (left : Int) else 0 := by
  cases left with
  | zero => simp [equipLoop]
  | succ left => simp [equipLoop,due]

theorem items_balance (config : Nat → Option SItem) (rid itemId : Nat) :
    Balances (enter config) (resume rid) Undisturbed (balance itemId) (due itemId) where
  entered s request allowed := by
    cases request with
    | delItem itemIndex itemNum => simp [enter,due]
    | addItem args =>
      simp only [enter]
      split
      · simp
      · split
        · simp
        · simp only [balance,book,due,Option.map_some,Option.getD_some,eq_comm (a:=itemId)]
          split <;> omega
  resumed s task order allowed := by
    cases task with
    | addGet args equip =>
      cases equip with
      | true => simp only [resume,if_true,due_equipLoop,due]
      | false =>
        simp only [resume,Bool.false_eq_true,if_false]
        split
        · have same := (sameItem_found ‹_›).2
          simp only [Option.map_some,Option.getD_some,due,same]
        · simp only [Option.map_some,Option.getD_some,due,initItem]
    | addSet itemIndex itemInfo itemNum =>
      have wrote := total_dSet itemId allowed (itemInfo.overlay+itemNum)
      simp only [resume,balance,wrote,due,Option.map_none,Option.getD_none]
      split <;> omega
    | addNew itemInfo =>
      have wrote := total_dAdd itemId allowed.1
      simp only [resume,balance,wrote,due,Option.map_none,Option.getD_none]
      omega
    | equipGet args left => simp only [resume,due,Option.map_some,Option.getD_some]
    | equipAdd args itemIndex left =>
      have free : s.bag.lookup (initItem rid args.itemId itemIndex 1 args.exclusive).itemIndex = none := allowed
      have wrote := total_dAdd itemId free
      simp only [resume,balance,wrote,due_equipLoop,due]
      simp only [initItem]
      split <;> omega
    | delGet itemIndex itemNum =>
      simp only [resume]
      split
      · simp [due]
      · split
        · simp only [balance,book,due,Option.map_some,Option.getD_some,eq_comm (a:=itemId)]
          split <;> omega
        · simp only [balance,book,due,Option.map_some,Option.getD_some,eq_comm (a:=itemId)]
          split <;> omega
    | delSet itemIndex itemInfo newNum =>
      have wrote := total_dSet itemId allowed newNum
      simp only [resume,balance,wrote,due,Option.map_none,Option.getD_none]
      omega
    | delDelete itemIndex itemInfo =>
      have wrote := total_dDelete itemId allowed
      simp only [resume,balance,wrote,due,Option.map_none,Option.getD_none]
      split <;> omega

end Totals

section Stacks
variable {config : Nat → Option SItem} {rid : Nat}

-- One stack for each id that is no equipment.
def OneStack (config : Nat → Option SItem) (bag : Bag) : Prop :=
  ∀ {i j item other}, bag.lookup i = some item → bag.lookup j = some other → item.itemId = other.itemId →
    isEquipId config item.itemId = false → i = j

-- Only equipment is added one by one.
def Chosen (config : Nat → Option SItem) (_ : Shared) : Task → Prop
  | .addGet args equip => equip = true → isEquipId config args.itemId = true
  | .equipGet args _ | .equipAdd args _ _ => isEquipId config args.itemId = true
  | _ => True

theorem dSet_lookup (found : (dSet bag itemIndex overlay).lookup i = some item) :
    ∃ old, bag.lookup i = some old ∧ item = {old with overlay:=item.overlay} := by
  unfold dSet at found
  split at found
  · rename_i old held
    rcases Table.found_insert found with ⟨rfl,rfl⟩ | ⟨_,found⟩
    · exact ⟨old,held,rfl⟩
    · exact ⟨item,found,rfl⟩
  · exact ⟨item,found,rfl⟩

theorem dDelete_lookup (found : (dDelete bag itemIndex).lookup i = some item) : bag.lookup i = some item := by
  unfold dDelete at found
  exact (Table.found_erase found).2

theorem dAdd_lookup (found : (dAdd bag itemInfo).lookup i = some item) :
    i = itemInfo.itemIndex ∧ item = itemInfo ∨ i ≠ itemInfo.itemIndex ∧ bag.lookup i = some item := by
  unfold dAdd at found
  exact Table.found_insert found

theorem dSet_oneStack (one : OneStack config bag) : OneStack config (dSet bag itemIndex overlay) := by
  intro i j item other left right same plain
  obtain ⟨old,left,rfl'⟩ := dSet_lookup left
  obtain ⟨older,right,rfl''⟩ := dSet_lookup right
  rw [rfl'] at same plain
  rw [rfl''] at same
  exact one left right same plain

theorem dDelete_oneStack (one : OneStack config bag) : OneStack config (dDelete bag itemIndex) := by
  intro i j item other left right same plain
  exact one (dDelete_lookup left) (dDelete_lookup right) same plain

theorem dAdd_oneStack (one : OneStack config bag) (first : isEquipId config itemInfo.itemId = true ∨
    ∀ index item, bag.lookup index = some item → item.itemId ≠ itemInfo.itemId) : OneStack config (dAdd bag itemInfo) := by
  have only (index item) (held : bag.lookup index = some item) (same : item.itemId = itemInfo.itemId) :
      isEquipId config itemInfo.itemId = true := by
    rcases first with equip | none
    · exact equip
    · exact absurd same (none index item held)
  intro i j item other left right same plain
  rcases dAdd_lookup left with ⟨here,rfl⟩ | ⟨_,old⟩
  · rcases dAdd_lookup right with ⟨there,rfl⟩ | ⟨_,older⟩
    · rw [here,there]
    · rw [only j other older same.symm] at plain
      cases plain
  · rcases dAdd_lookup right with ⟨there,rfl⟩ | ⟨_,older⟩
    · rw [same,only i item old same] at plain
      cases plain
    · exact one old older same plain

theorem equipLoop_chosen (equip : isEquipId config args.itemId = true) (next) (more : next ∈ equipLoop args left) :
    Chosen config s next := by
  cases left with
  | zero => cases more
  | succ left =>
    cases more
    exact equip

theorem stacks_kept : Keeps (enter config) (resume rid) Undisturbed (fun s => OneStack config s.bag) (Chosen config) where
  entered s request one allowed := by
    cases request with
    | delItem itemIndex itemNum =>
      refine ⟨one,?_⟩
      rintro next ⟨⟩
      trivial
    | addItem args =>
      simp only [enter]
      split
      · exact ⟨one,fun next more => by cases more⟩
      · rename_i item found
        split
        · exact ⟨one,fun next more => by cases more⟩
        · refine ⟨one,?_⟩
          rintro next ⟨⟩
          intro equip
          simp only [isEquipId,found,Option.any_some,equip]
  resumed s task order one chosen allowed := by
    cases task with
    | addGet args equip =>
      simp only [resume]
      split
      · exact ⟨one,equipLoop_chosen (chosen ‹_›)⟩
      · split
        · refine ⟨one,?_⟩
          rintro next ⟨⟩
          trivial
        · refine ⟨one,?_⟩
          rintro next ⟨⟩
          trivial
    | addSet itemIndex itemInfo itemNum => exact ⟨dSet_oneStack one,fun next more => by cases more⟩
    | addNew itemInfo => exact ⟨dAdd_oneStack one (.inr allowed.2),fun next more => by cases more⟩
    | equipGet args left =>
      refine ⟨one,?_⟩
      rintro next ⟨⟩
      exact chosen
    | equipAdd args itemIndex left =>
      have equip : isEquipId config (initItem rid args.itemId itemIndex 1 args.exclusive).itemId = true := chosen
      exact ⟨dAdd_oneStack one (.inl equip),equipLoop_chosen chosen⟩
    | delGet itemIndex itemNum =>
      simp only [resume]
      split
      · exact ⟨one,fun next more => by cases more⟩
      · split
        · refine ⟨one,?_⟩
          rintro next ⟨⟩
          trivial
        · refine ⟨one,?_⟩
          rintro next ⟨⟩
          trivial
    | delSet itemIndex itemInfo newNum => exact ⟨dSet_oneStack one,fun next more => by cases more⟩
    | delDelete itemIndex itemInfo => exact ⟨dDelete_oneStack one,fun next more => by cases more⟩
  beside_entered _ _ _ _ _ chosen := chosen
  beside_resumed _ _ _ _ _ _ _ chosen := chosen

-- A slot that stays in use keeps its item.
theorem resume_slot {s : Shared} {task : Task} {order : Order Nat} (allowed : Undisturbed s (.resume task order))
    (held : s.bag.lookup i = some item) (stays : (resume rid order task s).1.bag.lookup i = some after) :
    after = {item with overlay:=after.overlay} := by
  have kept (same : s.bag.lookup i = some after) : after = {item with overlay:=after.overlay} := by
    rw [held] at same
    cases same
    rfl
  have changed {itemIndex overlay} (set : (dSet s.bag itemIndex overlay).lookup i = some after) :
      after = {item with overlay:=after.overlay} := by
    obtain ⟨old,same,rest⟩ := dSet_lookup set
    rw [held] at same
    cases same
    exact rest
  have placed {itemInfo} (free : s.bag.lookup itemInfo.itemIndex = none)
      (add : (dAdd s.bag itemInfo).lookup i = some after) : after = {item with overlay:=after.overlay} := by
    rcases dAdd_lookup add with ⟨here,_⟩ | ⟨_,same⟩
    · subst here
      rw [held] at free
      cases free
    · exact kept same
  cases task with
  | addGet args equip =>
    simp only [resume] at stays
    split at stays
    · exact kept stays
    · split at stays <;> exact kept stays
  | addSet itemIndex itemInfo itemNum => exact changed stays
  | addNew itemInfo => exact placed allowed.1 stays
  | equipGet args left => exact kept stays
  | equipAdd args itemIndex left =>
    have free : s.bag.lookup (initItem rid args.itemId itemIndex 1 args.exclusive).itemIndex = none := allowed
    exact placed free stays
  | delGet itemIndex itemNum =>
    simp only [resume] at stays
    split at stays
    · exact kept stays
    · split at stays <;> exact kept stays
  | delSet itemIndex itemInfo newNum => exact changed stays
  | delDelete itemIndex itemInfo => exact kept (dDelete_lookup stays)

theorem enter_bag (config : Nat → Option SItem) (request : Request) (s : Shared) : (enter config request s).1.bag = s.bag := by
  unfold enter
  split
  · split
    · rfl
    · split <;> rfl
  · rfl

theorem acts_slot {before after : Service Shared Task} (acts : Guarded (Acts config rid) (Allowed Undisturbed) before event after)
    (held : before.shared.bag.lookup i = some item) (stays : after.shared.bag.lookup i = some next) :
    next = {item with overlay:=next.overlay} := by
  obtain ⟨step,allowed⟩ := acts
  cases step with
  | call =>
    dsimp only at held stays
    rw [enter_bag,held] at stays
    cases stays
    rfl
  | resume => exact resume_slot allowed held stays

theorem getFreeItemIndex_free (items : Bag) : items.lookup (getFreeItemIndex items) = none := by
  unfold getFreeItemIndex
  cases found : ((List.range items.entries.length).map (·+1)).find? (fun i => (items.lookup i).isNone) with
  | some i =>
    have free := List.find?_some found
    exact Option.isNone_iff_eq_none.mp free
  | none =>
    -- 1 to the size are all in use, so they are the keys.
    rw [Option.getD_none]
    have used (i) (mem : i ∈ (List.range items.entries.length).map (·+1)) : i ∈ items.keys := by
      have full := List.find?_eq_none.mp found i mem
      rw [Option.isNone_iff_eq_none] at full
      exact AList.lookup_isSome.mp (Option.isSome_iff_ne_none.mpr full)
    have distinct : ((List.range items.entries.length).map (·+1)).Nodup :=
      List.Nodup.map (fun _ _ same => Nat.succ.inj same) List.nodup_range
    have all : ((List.range items.entries.length).map (·+1)).Perm items.keys := by
      refine (distinct.subperm used).perm_of_length_le ?_
      simp only [AList.keys,List.keys,List.length_map,List.length_range,le_refl]
    apply AList.lookup_eq_none.mpr
    intro last
    have mem := all.mem_iff.mpr last
    simp only [List.mem_map,List.mem_range] at mem
    omega

-- Every call has returned: the amounts add up. In between no slot changes its item
-- and no id gets a second stack.
theorem items_add_up {last : Service Shared Task}
    (path : Runs (Guarded (Acts config rid) (Allowed Undisturbed)) (start bag) events last) :
    (last.waiting = [] → ∀ itemId, total itemId last.shared.bag =
      total itemId bag+last.shared.added itemId-last.shared.removed itemId) ∧
    (OneStack config bag → OneStack config last.shared.bag) ∧
    (∀ event next, Guarded (Acts config rid) (Allowed Undisturbed) last event next →
      ∀ i item after, last.shared.bag.lookup i = some item → next.shared.bag.lookup i = some after →
        after = {item with overlay:=after.overlay}) := by
  refine ⟨?_,?_,?_⟩
  · intro returned itemId
    have same := (items_balance config rid itemId).run path
    rw [returned] at same
    simp only [balance,start,owed_nil] at same
    omega
  · intro one
    exact (stacks_kept.run path ⟨one,fun handler mem => by cases mem⟩).1
  · intro event next acts i item after held stays
    exact acts_slot acts held stays

end Stacks

section Overlap

def catalogue : Nat → Option SItem
  | 7 => some ⟨.resource,.other 10102⟩
  | 9 => some ⟨.equip,.arms⟩
  | _ => none

def rowOf (itemIndex itemId : Nat) (overlay : Int) : ItemInfo := initItem 1 itemId itemIndex overlay none

def pouch : Bag := AList.insert 1 (rowOf 1 7 5) ∅

def more (itemNum : Nat) : AddArgs := ⟨7,some itemNum,none⟩

-- Both calls read the stack of 5 before either has written it.
theorem overlap_loses_add : ∃ events last, Runs (Acts catalogue 1) (start pouch) events last ∧
    last.waiting = [] ∧ last.shared.added 7 = 7 ∧ last.shared.removed 7 = 0 ∧ total 7 pouch = 5 ∧
    total 7 last.shared.bag = 8 := by
  apply play_unguarded [.call (.addItem (more 3)),.call (.addItem (more 4)),.resume 0 .stored,.resume 1 .stored,
    .resume 0 .stored,.resume 0 .stored] (start pouch)
  decide

-- Beside a delete from the stack, two weapons come in; the weapons may overlap it, a second add of the item may not.
theorem overlap_apart : ∃ events last, Runs (Guarded (Acts catalogue 1) (Allowed Undisturbed)) (start pouch) events last ∧
    last.waiting = [] ∧ total 7 last.shared.bag = 6 ∧ total 9 last.shared.bag = 2 := by
  have played : ∃ events last, Runs (Guarded (Acts catalogue 1) (Allowed Undisturbed)) (start pouch) events last ∧
      last.waiting = [] ∧ (last.shared.added 7 = 3 ∧ last.shared.removed 7 = 2) ∧
      (last.shared.added 9 = 2 ∧ last.shared.removed 9 = 0) := by
    apply play_reaches (fun s event => decide (Undisturbed s event)) (fun _ _ passed => of_decide_eq_true passed)
      [.call (.delItem 1 2),.call (.addItem ⟨9,some 2,none⟩),.resume 0 .stored,.resume 1 .stored,.resume 0 .stored,
        .resume 1 .stored,.resume 0 .stored,.call (.addItem (more 3)),.resume 0 .stored,.resume 1 .stored,.resume 0 .stored,
        .resume 0 .stored] (start pouch)
    decide
  obtain ⟨events,last,path,returned,seven,nine⟩ := played
  have sum := (items_add_up path).1 returned
  refine ⟨events,last,path,returned,?_,?_⟩
  · rw [sum 7,seven.1,seven.2]
    decide
  · rw [sum 9,nine.1,nine.2]
    decide

end Overlap
end OriginGame.ItemLogic
