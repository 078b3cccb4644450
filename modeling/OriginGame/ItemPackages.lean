import OriginGame.LuaNumber
import OriginGame.LuaTable
import Mathlib.Data.Rat.Floor

namespace OriginGame.ItemPackages

-- The names under which a reward holds its currencies. A package means them by
-- Enum.CurrencyType, where guildPoint is individualPoints.
inductive Currency where
  | food | wood | stone | gold | denar | actionForce | vip | expeditionCoin | guildPoint | activityActivePoint
  deriving DecidableEq, Repr

def currencyType : Nat → Option Currency
  | 100 => some .food
  | 101 => some .wood
  | 102 => some .stone
  | 103 => some .gold
  | 104 => some .denar
  | 105 => some .actionForce
  | 106 => some .guildPoint
  | 112 => some .vip
  | 116 => some .expeditionCoin
  | 118 => some .activityActivePoint
  | _ => none

inductive ItemPackageType where
  | none | currency | item | soldier | hero | subItemType | guildGift
  deriving DecidableEq, Repr

-- A row of s_ItemPackage, under its ID. The odds only tell how likely a draw is.
structure ItemPackage where
  group : Nat
  randomGroup : Nat
  type : ItemPackageType
  typeData : Nat
  number : Int
  numberStep_lv : Int
  numberStep_increment : ℚ
  numberFloat_min : Int
  numberFloat_max : Int
  civilization_limit : List Nat

structure SArms where
  armsType : Nat
  armsLv : Nat
  deriving DecidableEq, Repr

structure Config where
  sItemPackage : Table Nat ItemPackage
  sArms : Nat → Option SArms
  -- s_Item, of which the sub type counts here.
  sItem : Table Nat Nat
  -- How the tables are loaded, once for all openings.
  order : Order Nat

abbrev Row := Nat × ItemPackage

def Config.reInitsItemPackage (config : Config) : Table Nat (List Row) :=
  Table.grouped (fun row : Row => row.2.group) (Table.pairs config.order config.sItemPackage)

-- An item is listed with its sub type.
def Config.initSSubItemType (config : Config) : Table Nat (List (Nat × Nat)) :=
  Table.grouped (fun item : Nat × Nat => item.2) (Table.pairs config.order config.sItem)

structure Role where
  country : Nat
  level : Int

def allowed (country : Nat) (itemPackage : ItemPackage) : Bool :=
  itemPackage.civilization_limit.isEmpty || itemPackage.civilization_limit.contains 0 || itemPackage.civilization_limit.contains country

def newSItemPackage (country : Nat) (sItemPackage : List Row) : Table Nat (List Row) :=
  Table.grouped (fun row : Row => row.2.randomGroup) (sItemPackage.filter (fun row => allowed country row.2))

-- Random.GetId. A draw is the place of the entry it falls on, counted round and round in
-- the table as it was built; what it had to be among the rates is left open.
def getId (draw : Nat) (t : List α) : Option α := t[draw%t.length]?

-- Random.GetRange( m, n, 1 )[1].
def getRange (m n : Int) (draw : Nat) : Int := m+draw%(n-m+1)

-- What one opening draws: the package of each random group and how far its number floats.
structure Draws where
  package : Nat → Nat
  range : Nat → Nat

section endNumber
variable (rounding : Rounding) (role : Role) (packageInfo : ItemPackage)

def levelAddNumber : Int :=
  if packageInfo.numberStep_lv < role.level then
    ⌊rounding.near ((role.level-packageInfo.numberStep_lv)*packageInfo.numberStep_increment)⌋
  else 0

-- A rate of 1 is an integer and leaves the number alone; others are doubles.
def floated (draw : Nat) (number : Int) : Int :=
  if packageInfo.numberFloat_min = 0 ∧ packageInfo.numberFloat_max = 0 ∨ packageInfo.numberFloat_max < packageInfo.numberFloat_min then number
  else
    let rangeRate := rounding.near (getRange packageInfo.numberFloat_min packageInfo.numberFloat_max draw/1000)
    ⌊rounding.near (number*rangeRate)⌋

def endNumber (draw : Nat) : Int :=
  let endNumber := floated rounding packageInfo draw (packageInfo.number+levelAddNumber rounding role packageInfo)
  if endNumber < 1 then 1 else endNumber

theorem endNumber_pos (draw : Nat) : 1 ≤ endNumber rounding role packageInfo draw := by
  unfold endNumber
  dsimp only
  split <;> omega

end endNumber

-- A package drawn, with the number it came to.
structure Drawn where
  ID : Nat
  packageInfo : ItemPackage
  endNumber : Int

-- One round of the random groups. None of them is empty.
def openOnce (rounding : Rounding) (role : Role) (order : Order Nat) (groups : Table Nat (List Row)) (draws : Draws) : List Drawn :=
  (Table.pairs order groups).filterMap (fun group =>
    (getId (draws.package group.1) group.2).map (fun row =>
      ⟨row.1,row.2,endNumber rounding role row.2 (draws.range group.1)⟩))

-- An entry of allPackages.
structure Package where
  type : ItemPackageType
  typeData : Nat
  number : Int
  deriving DecidableEq, Repr

def addDrawn (allPackages : Table Nat Package) (drawn : Drawn) : Table Nat Package :=
  allPackages.insert drawn.ID ⟨drawn.packageInfo.type,drawn.packageInfo.typeData,allPackages.amount Package.number drawn.ID+drawn.endNumber⟩

def allPackages (drawn : List Drawn) : Table Nat Package := drawn.foldl addDrawn ∅

structure Item where
  itemId : Nat
  itemNum : Int
  deriving DecidableEq, Repr

structure Soldier where
  type : Nat
  level : Nat
  num : Int
  deriving DecidableEq, Repr

structure Hero where
  heroId : Nat
  num : Int
  isNew : Int
  deriving DecidableEq, Repr

-- What getGroupPackage returns.
structure GroupPackage where
  currencies : Currency → Int := fun _ => 0
  items : Table Nat Int := ∅
  itemList : List Item := []
  soldiers : Table Nat Soldier := ∅
  heros : List Hero := []
  guildGifts : Table Nat Int := ∅
  turnTableId : Option Nat := none

-- How the lists of rewards are added to: the first entry of the same key grows, and
-- without one the new entry comes last.
def bump (key : α → Nat) (grow : α → α → α) : List α → α → List α
  | [],x => [x]
  | y::rest,x => if key y = key x then grow y x::rest else y::bump key grow rest x

namespace GroupPackage

def addCurrency (all : GroupPackage) (name : Currency) (number : Int) : GroupPackage :=
  {all with currencies:=fun other => if other = name then all.currencies name+number else all.currencies other}

def addItem (noMerge : Bool) (all : GroupPackage) (itemId : Nat) (number : Int) : GroupPackage :=
  {all with
    items:=all.items.insert itemId (all.items.amount (fun n => n) itemId+number)
    itemList:=if noMerge then all.itemList++[⟨itemId,number⟩] else all.itemList}

-- A kind of soldier s_Arms does not know raises.
def addSoldier (sArms : Nat → Option SArms) (all : GroupPackage) (k : Nat) (number : Int) : Option GroupPackage :=
  match all.soldiers.lookup k with
  | none => (sArms k).map (fun sArmy => {all with soldiers:=all.soldiers.insert k ⟨sArmy.armsType,sArmy.armsLv,number⟩})
  | some soldier => some {all with soldiers:=all.soldiers.insert k {soldier with num:=soldier.num+number}}

-- isNew stays what the first package made it.
def moreHeros (info more : Hero) : Hero := {info with num:=info.num+more.num}

-- owned is what getHero finds of the role.
def addHero (mergeHero : Bool) (owned : Nat → Bool) (all : GroupPackage) (heroId : Nat) (number : Int) : GroupPackage :=
  let hero : Hero := ⟨heroId,number,if owned heroId then 0 else 1⟩
  if mergeHero then {all with heros:=bump Hero.heroId moreHeros all.heros hero}
  else {all with heros:=all.heros++[hero]}

def addGuildGift (all : GroupPackage) (giftType : Nat) : GroupPackage :=
  {all with guildGifts:=all.guildGifts.insert giftType (all.guildGifts.amount (fun n => n) giftType+1)}

end GroupPackage

structure Flags where
  noMerge : Bool
  mergeHero : Bool

-- One call of getGroupPackage: how pairs runs, which heros the role has and the items drawn
-- for a package that means any item of a sub type.
structure Opening where
  order : Order Nat
  owned : Nat → Bool
  subItem : Nat → Nat → Nat

section getGroupPackage
variable (config : Config) (rounding : Rounding) (role : Role) (flags : Flags)

def subItems (opening : Opening) (ID : Nat) (package : Package) : List Nat :=
  match package.type with
  | .subItemType =>
    match config.initSSubItemType.lookup package.typeData with
    | some items => (List.range package.number.toNat).filterMap (fun i => (getId (opening.subItem ID i) items).map (·.1))
    | none => []
  | _ => []

def arrange (opening : Opening) (all : GroupPackage) (ID : Nat) (package : Package) : Option GroupPackage :=
  match package.type with
  | .currency =>
    match currencyType package.typeData with
    | some name => some (all.addCurrency name package.number)
    | none => some all
  | .item => some (all.addItem flags.noMerge package.typeData package.number)
  | .soldier => all.addSoldier config.sArms package.typeData package.number
  | .subItemType => some ((subItems config opening ID package).foldl (fun all itemId => all.addItem flags.noMerge itemId 1) all)
  | .hero => some (all.addHero flags.mergeHero opening.owned package.typeData package.number)
  | .guildGift => some (all.addGuildGift package.typeData)
  | .none => some all

-- The packages drawn, round after round. A group without rows draws none.
def draw (groupId : Nat) (order : Order Nat) (rounds : List Draws) : List Drawn :=
  let groups := newSItemPackage role.country ((config.reInitsItemPackage.lookup groupId).getD [])
  rounds.flatMap (openOnce rounding role order groups)

-- Each element of rounds is one of the openNum openings.
def getGroupPackage (groupId : Nat) (opening : Opening) (rounds : List Draws) : Option GroupPackage :=
  match config.reInitsItemPackage.lookup groupId with
  | none => some {}
  | some _ =>
    let drawn := draw config rounding role groupId opening.order rounds
    (Table.pairs opening.order (allPackages drawn)).foldlM (fun all package => arrange config flags opening all package.1 package.2)
      {turnTableId:=drawn.getLast?.map Drawn.ID}

end getGroupPackage

structure RewardSoldier where
  id : Nat
  type : Nat
  level : Nat
  num : Int
  deriving DecidableEq, Repr

structure Gift where
  giftType : Nat
  giftNum : Int
  deriving DecidableEq, Repr

-- What getItemPackage returns; no list is an empty one.
structure Reward where
  currencies : Currency → Option Int := fun _ => none
  items : List Item := []
  soldiers : List RewardSoldier := []
  heros : List Hero := []
  guildGifts : List Gift := []

def rewardInfo (order : Order Nat) (noMerge : Bool) (packageInfo : GroupPackage) : Reward where
  currencies name := if 0 < packageInfo.currencies name then some (packageInfo.currencies name) else none
  items := if noMerge then packageInfo.itemList else (Table.pairs order packageInfo.items).map (fun item => ⟨item.1,item.2⟩)
  soldiers := (Table.pairs order packageInfo.soldiers).map (fun soldier => ⟨soldier.1,soldier.2.type,soldier.2.level,soldier.2.num⟩)
  heros := packageInfo.heros
  guildGifts := (Table.pairs order packageInfo.guildGifts).map (fun gift => ⟨gift.1,gift.2⟩)

-- Without a group there is no reward, which is merged like an empty one.
def getItemPackage (config : Config) (rounding : Rounding) (role : Role) (flags : Flags) (groupId : Nat) (opening : Opening) (rounds : List Draws) :
    Option Reward :=
  if groupId = 0 then some {}
  else (getGroupPackage config rounding role flags groupId opening rounds).map (rewardInfo opening.order flags.noMerge)

section mergeReward

def growItem (item more : Item) : Item := {item with itemNum:=item.itemNum+more.itemNum}

def growSoldier (soldier more : RewardSoldier) : RewardSoldier := {soldier with num:=soldier.num+more.num}

def growHero (hero more : Hero) : Hero := {hero with num:=hero.num+more.num,isNew:=hero.isNew+more.isNew}

def growGift (gift more : Gift) : Gift := {gift with giftNum:=gift.giftNum+more.giftNum}

def mergeReward (raw add : Reward) : Reward where
  currencies name := ((add.currencies name).map (fun value => (raw.currencies name).getD 0+value)).or (raw.currencies name)
  items := add.items.foldl (bump Item.itemId growItem) raw.items
  soldiers := add.soldiers.foldl (bump RewardSoldier.id growSoldier) raw.soldiers
  heros := add.heros.foldl (bump Hero.heroId growHero) raw.heros
  guildGifts := add.guildGifts.foldl (bump Gift.giftType growGift) raw.guildGifts

end mergeReward

-- What is counted of a reward.
inductive Kind where
  | currency (name : Currency)
  | item (itemId : Nat)
  | soldier (id : Nat)
  | hero (heroId : Nat)
  | guildGift (giftType : Nat)
  deriving DecidableEq, Repr

def sumOf (key : α → Nat) (amount : α → Int) (k : Nat) (list : List α) : Int := (list.map (fun x => if key x = k then amount x else 0)).sum

def GroupPackage.total (packageInfo : GroupPackage) : Kind → Int
  | .currency name => packageInfo.currencies name
  | .item k => packageInfo.items.amount (fun n => n) k
  | .soldier k => packageInfo.soldiers.amount Soldier.num k
  | .hero k => sumOf Hero.heroId Hero.num k packageInfo.heros
  | .guildGift k => packageInfo.guildGifts.amount (fun n => n) k

def Reward.total (reward : Reward) : Kind → Int
  | .currency name => (reward.currencies name).getD 0
  | .item k => sumOf Item.itemId Item.itemNum k reward.items
  | .soldier k => sumOf RewardSoldier.id RewardSoldier.num k reward.soldiers
  | .hero k => sumOf Hero.heroId Hero.num k reward.heros
  | .guildGift k => sumOf Gift.giftType Gift.giftNum k reward.guildGifts

section sums
variable (key : α → Nat) (amount : α → Int) (grow : α → α → α) {k : Nat}

theorem sumOf_append (first second : List α) : sumOf key amount k (first++second) = sumOf key amount k first+sumOf key amount k second := by
  unfold sumOf
  rw [List.map_append,List.sum_append]

theorem sumOf_bump (kept : ∀ y x, key (grow y x) = key y) (grows : ∀ y x, amount (grow y x) = amount y+amount x) (list : List α) (x : α) :
    sumOf key amount k (bump key grow list x) = sumOf key amount k list+sumOf key amount k [x] := by
  induction list with
  | nil => exact (zero_add _).symm
  | cons y rest ih =>
    unfold bump
    split
    next same =>
      simp only [sumOf,List.map_cons,List.map_nil,List.sum_cons,List.sum_nil,kept,grows,same]
      split <;> omega
    next =>
      change (if key y = k then amount y else 0)+sumOf key amount k (bump key grow rest x) = _
      rw [ih]
      exact (add_assoc _ _ _).symm

theorem sumOf_merged (kept : ∀ y x, key (grow y x) = key y) (grows : ∀ y x, amount (grow y x) = amount y+amount x) (raw add : List α) :
    sumOf key amount k (add.foldl (bump key grow) raw) = sumOf key amount k raw+sumOf key amount k add := by
  induction add generalizing raw with
  | nil => exact (add_zero _).symm
  | cons x rest ih =>
    rw [List.foldl_cons,ih,sumOf_bump key amount grow kept grows,add_assoc,←sumOf_append]
    rfl

theorem sumOf_pairs {f : Nat × ν → α} {field : ν → Int} (named : ∀ e, key (f e) = e.1) (counted : ∀ e, amount (f e) = field e.2)
    (order : Order Nat) (t : Table Nat ν) : sumOf key amount k ((Table.pairs order t).map f) = t.amount field k := by
  unfold sumOf
  rw [List.map_map]
  have each : (fun x => if key x = k then amount x else 0) ∘ f = fun e => (fun j v => if j = k then field v else 0) e.1 e.2 := by
    funext e
    dsimp only [Function.comp]
    rw [named,counted]
  rw [each,Table.sum_pairs order t (fun j v => if j = k then field v else 0)]
  rw [Finset.sum_eq_single k]
  · unfold Table.amount
    cases t.lookup k with
    | none => rfl
    | some v => exact if_pos rfl
  · intro j _ other
    cases t.lookup j with
    | none => rfl
    | some v => exact if_neg other
  · intro absent
    rw [AList.lookup_eq_none.mpr (fun there => absent (List.mem_toFinset.mpr (AList.mem_keys.mp there)))]
    rfl

end sums

theorem total_mergeReward (raw add : Reward) (kind : Kind) : (mergeReward raw add).total kind = raw.total kind+add.total kind := by
  cases kind with
  | currency name =>
    change (((add.currencies name).map _).or (raw.currencies name)).getD 0 = (raw.currencies name).getD 0+(add.currencies name).getD 0
    cases add.currencies name with
    | none => exact (Int.add_zero _).symm
    | some value => rfl
  | item k => exact sumOf_merged Item.itemId Item.itemNum growItem (fun _ _ => rfl) (fun _ _ => rfl) _ _
  | soldier k => exact sumOf_merged RewardSoldier.id RewardSoldier.num growSoldier (fun _ _ => rfl) (fun _ _ => rfl) _ _
  | hero k => exact sumOf_merged Hero.heroId Hero.num growHero (fun _ _ => rfl) (fun _ _ => rfl) _ _
  | guildGift k => exact sumOf_merged Gift.giftType Gift.giftNum growGift (fun _ _ => rfl) (fun _ _ => rfl) _ _

-- What holds of the packages while they are put together.
structure Sound (sArms : Nat → Option SArms) (noMerge : Bool) (packageInfo : GroupPackage) : Prop where
  nonneg : ∀ name, 0 ≤ packageInfo.currencies name
  listed : noMerge = true → ∀ k, sumOf Item.itemId Item.itemNum k packageInfo.itemList = packageInfo.total (.item k)
  known : ∀ k, sArms k = none → packageInfo.soldiers.lookup k = none

theorem total_rewardInfo (sound : Sound sArms noMerge packageInfo) (order : Order Nat) (kind : Kind) :
    (rewardInfo order noMerge packageInfo).total kind = packageInfo.total kind := by
  cases kind with
  | currency name =>
    have least := sound.nonneg name
    unfold Reward.total rewardInfo GroupPackage.total
    dsimp only
    split
    next => rfl
    next none => exact Int.le_antisymm least (Int.not_lt.mp none)
  | item k =>
    unfold Reward.total rewardInfo
    dsimp only
    split
    next list => exact sound.listed list k
    next => refine sumOf_pairs Item.itemId Item.itemNum ?_ ?_ _ _ <;> exact fun _ => rfl
  | soldier k => refine sumOf_pairs RewardSoldier.id RewardSoldier.num ?_ ?_ _ _ <;> exact fun _ => rfl
  | hero k => rfl
  | guildGift k => refine sumOf_pairs Gift.giftType Gift.giftNum ?_ ?_ _ _ <;> exact fun _ => rfl

end OriginGame.ItemPackages
