import OriginGame.ItemPackages
import Mathlib.Algebra.BigOperators.Ring.List
import Mathlib.Algebra.Order.BigOperators.Group.Finset

namespace OriginGame.ItemPackages

-- The kind of reward a package names. A sub type names none.
def named (type : ItemPackageType) (typeData : Nat) : Option Kind :=
  match type with
  | .currency => (currencyType typeData).map .currency
  | .item => some (.item typeData)
  | .soldier => some (.soldier typeData)
  | .hero => some (.hero typeData)
  | .guildGift => some (.guildGift typeData)
  | .subItemType => none
  | .none => none

-- A guild gift counts once, whatever its number.
def counted (package : Package) : Int := if package.type = .guildGift then 1 else package.number

def among (items : List Nat) : Kind → Int
  | .item k => items.count k
  | _ => 0

def worth (kind : Kind) (package : Package) (items : List Nat) : Int :=
  (if named package.type package.typeData = some kind then counted package else 0)+among items kind

section total
variable (all : GroupPackage) (number : Int)

theorem total_addCurrency (name : Currency) (kind : Kind) :
    (all.addCurrency name number).total kind = all.total kind+if some (Kind.currency name) = some kind then number else 0 := by
  cases kind with
  | currency other =>
    change (if other = name then all.currencies name+number else all.currencies other) = all.currencies other+_
    by_cases same : other = name
    · subst same
      rw [if_pos rfl,if_pos rfl]
    · rw [if_neg same,if_neg (fun equal => same (Kind.currency.inj (Option.some.inj equal)).symm),Int.add_zero]
  | _ => exact (Int.add_zero _).symm

theorem total_addItem (noMerge : Bool) (itemId : Nat) (kind : Kind) :
    (all.addItem noMerge itemId number).total kind = all.total kind+if some (Kind.item itemId) = some kind then number else 0 := by
  cases kind with
  | item k =>
    simp only [Option.some.injEq,Kind.item.injEq]
    exact Table.amount_grown rfl k
  | _ => exact (Int.add_zero _).symm

theorem total_addGuildGift (giftType : Nat) (kind : Kind) :
    (all.addGuildGift giftType).total kind = all.total kind+if some (Kind.guildGift giftType) = some kind then 1 else 0 := by
  cases kind with
  | guildGift k =>
    simp only [Option.some.injEq,Kind.guildGift.injEq]
    exact Table.amount_grown rfl k
  | _ => exact (Int.add_zero _).symm

theorem total_addHero (mergeHero : Bool) (owned : Nat → Bool) (heroId : Nat) (kind : Kind) :
    (all.addHero mergeHero owned heroId number).total kind = all.total kind+if some (Kind.hero heroId) = some kind then number else 0 := by
  unfold GroupPackage.addHero
  cases kind with
  | hero k =>
    simp only [Option.some.injEq,Kind.hero.injEq]
    have once : (if heroId = k then number else 0) = sumOf Hero.heroId Hero.num k [⟨heroId,number,if owned heroId then 0 else 1⟩] := (Int.add_zero _).symm
    rw [once]
    cases mergeHero with
    | false => exact sumOf_append Hero.heroId Hero.num all.heros _
    | true => exact sumOf_bump Hero.heroId Hero.num GroupPackage.moreHeros (fun _ _ => rfl) (fun _ _ => rfl) all.heros _
  | _ => cases mergeHero <;> exact (Int.add_zero _).symm

theorem total_addSoldier {sArms : Nat → Option SArms} (added : all.addSoldier sArms k number = some next) (kind : Kind) :
    next.total kind = all.total kind+if some (Kind.soldier k) = some kind then number else 0 := by
  unfold GroupPackage.addSoldier at added
  have grown : ∃ soldier, next = {all with soldiers:=all.soldiers.insert k soldier} ∧ soldier.num = all.soldiers.amount Soldier.num k+number := by
    split at added
    next missing =>
      obtain ⟨sArmy,_,rfl⟩ := Option.map_eq_some_iff.mp added
      refine ⟨_,rfl,?_⟩
      rw [Table.amount_none missing,Int.zero_add]
    next soldier found =>
      cases added
      refine ⟨_,rfl,?_⟩
      rw [Table.amount_some found]
  obtain ⟨soldier,rfl,more⟩ := grown
  cases kind with
  | soldier j =>
    simp only [Option.some.injEq,Kind.soldier.injEq]
    exact Table.amount_grown more j
  | _ => exact (Int.add_zero _).symm

end total

section arrange
variable {config : Config} {flags : Flags} {opening : Opening} {all next : GroupPackage} {ID : Nat} {package : Package}

theorem among_nil (kind : Kind) : among [] kind = 0 := by cases kind <;> rfl

theorem subItems_other (other : package.type ≠ .subItemType) : subItems config opening ID package = [] := by
  unfold subItems
  split
  next same => exact absurd same other
  next => rfl

theorem worth_other (other : package.type ≠ .subItemType) (kind : Kind) :
    worth kind package (subItems config opening ID package) = if named package.type package.typeData = some kind then counted package else 0 := by
  unfold worth
  rw [subItems_other other,among_nil,Int.add_zero]

theorem total_addItems (noMerge : Bool) (items : List Nat) (all : GroupPackage) (kind : Kind) :
    (items.foldl (fun all itemId => all.addItem noMerge itemId 1) all).total kind = all.total kind+among items kind := by
  induction items generalizing all with
  | nil => rw [among_nil,Int.add_zero]; rfl
  | cons itemId rest ih =>
    rw [List.foldl_cons,ih,total_addItem]
    cases kind with
    | item k =>
      simp only [among,List.count_cons,Option.some.injEq,Kind.item.injEq,beq_iff_eq]
      split <;> omega
    | _ => simp [among]

theorem counted_other (other : package.type ≠ .guildGift) : counted package = package.number := if_neg other

theorem total_arrange (step : arrange config flags opening all ID package = some next) (kind : Kind) :
    next.total kind = all.total kind+worth kind package (subItems config opening ID package) := by
  unfold arrange at step
  cases type : package.type with
  | subItemType =>
    rw [type] at step
    cases step
    unfold worth
    rw [type,total_addItems]
    exact congrArg _ (Int.zero_add _).symm
  | currency =>
    rw [type] at step
    rw [worth_other (by rw [type]; nofun),counted_other (by rw [type]; nofun),type]
    dsimp only at step
    unfold named
    split at step
    next name code =>
      cases step
      rw [total_addCurrency,code,Option.map_some]
    next code =>
      cases step
      rw [code,Option.map_none,if_neg nofun,Int.add_zero]
  | item =>
    rw [type] at step
    rw [worth_other (by rw [type]; nofun),counted_other (by rw [type]; nofun),type]
    cases step
    exact total_addItem _ _ _ _ _
  | soldier =>
    rw [type] at step
    rw [worth_other (by rw [type]; nofun),counted_other (by rw [type]; nofun),type]
    exact total_addSoldier _ _ step _
  | hero =>
    rw [type] at step
    rw [worth_other (by rw [type]; nofun),counted_other (by rw [type]; nofun),type]
    cases step
    exact total_addHero _ _ _ _ _ _
  | guildGift =>
    rw [type] at step
    rw [worth_other (by rw [type]; nofun)]
    unfold counted
    rw [type,if_pos rfl]
    cases step
    exact total_addGuildGift _ _ _
  | none =>
    rw [type] at step
    rw [worth_other (by rw [type]; nofun),type]
    cases step
    exact (Int.add_zero _).symm

theorem addItem_sound (sound : Sound sArms noMerge all) (itemId : Nat) (number : Int) : Sound sArms noMerge (all.addItem noMerge itemId number) := by
  refine ⟨sound.nonneg,?_,sound.known⟩
  intro merged k
  rw [total_addItem]
  unfold GroupPackage.addItem
  dsimp only
  rw [if_pos merged,sumOf_append,sound.listed merged k]
  simp [sumOf]

theorem addItems_sound (sound : Sound sArms noMerge all) (items : List Nat) :
    Sound sArms noMerge (items.foldl (fun all itemId => all.addItem noMerge itemId 1) all) := by
  induction items generalizing all with
  | nil => exact sound
  | cons itemId rest ih => exact ih (addItem_sound sound itemId 1)

theorem addCurrency_sound (sound : Sound sArms noMerge all) (name : Currency) (nonneg : 0 ≤ number) :
    Sound sArms noMerge (all.addCurrency name number) := by
  refine ⟨?_,sound.listed,sound.known⟩
  intro other
  unfold GroupPackage.addCurrency
  dsimp only
  split
  · exact Int.add_nonneg (sound.nonneg name) nonneg
  · exact sound.nonneg other

theorem addSoldier_sound (sound : Sound sArms noMerge all) (added : all.addSoldier sArms k number = some next) : Sound sArms noMerge next := by
  unfold GroupPackage.addSoldier at added
  have inserted : ∃ soldier, next = {all with soldiers:=all.soldiers.insert k soldier} ∧ sArms k ≠ none := by
    split at added
    next missing =>
      obtain ⟨sArmy,found,rfl⟩ := Option.map_eq_some_iff.mp added
      exact ⟨_,rfl,by rw [found]; nofun⟩
    next soldier found =>
      cases added
      refine ⟨_,rfl,fun unknown => ?_⟩
      rw [sound.known k unknown] at found
      cases found
  obtain ⟨soldier,rfl,known⟩ := inserted
  refine ⟨sound.nonneg,sound.listed,?_⟩
  intro j unknown
  have other : j ≠ k := fun same => known (same ▸ unknown)
  exact (AList.lookup_insert_ne other).trans (sound.known j unknown)

theorem arrange_sound (sound : Sound config.sArms flags.noMerge all) (nonneg : 0 ≤ package.number)
    (step : arrange config flags opening all ID package = some next) : Sound config.sArms flags.noMerge next := by
  unfold arrange at step
  split at step
  · split at step
    next name _ =>
      cases step
      exact addCurrency_sound sound name nonneg
    next =>
      cases step
      exact sound
  · cases step
    exact addItem_sound sound _ _
  · exact addSoldier_sound sound step
  · cases step
    exact addItems_sound sound _
  · cases step
    unfold GroupPackage.addHero
    cases flags.mergeHero <;> exact ⟨sound.nonneg,sound.listed,sound.known⟩
  · cases step
    exact ⟨sound.nonneg,sound.listed,sound.known⟩
  · cases step
    exact sound

-- A package that raises.
def Unknown (sArms : Nat → Option SArms) (package : Package) : Prop := package.type = .soldier ∧ sArms package.typeData = none

theorem arrange_none (sound : Sound config.sArms flags.noMerge all) (opening : Opening) (ID : Nat) (package : Package) :
    arrange config flags opening all ID package = none ↔ Unknown config.sArms package := by
  unfold arrange Unknown
  cases type : package.type with
  | soldier =>
    unfold GroupPackage.addSoldier
    dsimp only
    split
    next => exact Option.map_eq_none_iff.trans (and_iff_right rfl).symm
    next soldier found =>
      refine ⟨nofun,fun unknown => ?_⟩
      rw [sound.known _ unknown.2] at found
      cases found
  | currency => dsimp only; split <;> simp
  | _ => simp

theorem arranged_total {packages : List (Nat × Package)} (sound : Sound config.sArms flags.noMerge all) (nonneg : ∀ e ∈ packages, 0 ≤ e.2.number)
    (run : packages.foldlM (fun all e => arrange config flags opening all e.1 e.2) all = some next) :
    Sound config.sArms flags.noMerge next ∧
      ∀ kind, next.total kind = all.total kind+(packages.map (fun e => worth kind e.2 (subItems config opening e.1 e.2))).sum := by
  induction packages generalizing all with
  | nil =>
    cases run
    exact ⟨sound,fun _ => (Int.add_zero _).symm⟩
  | cons e rest ih =>
    rw [List.foldlM_cons] at run
    obtain ⟨middle,step,later⟩ := Option.bind_eq_some_iff.mp run
    obtain ⟨kept,total⟩ := ih (arrange_sound sound (nonneg e List.mem_cons_self) step) (fun x mem => nonneg x (List.mem_cons_of_mem _ mem)) later
    refine ⟨kept,fun kind => ?_⟩
    rw [total kind,total_arrange step kind,List.map_cons,List.sum_cons,Int.add_assoc]

theorem arranged_none {packages : List (Nat × Package)} (sound : Sound config.sArms flags.noMerge all) (nonneg : ∀ e ∈ packages, 0 ≤ e.2.number) :
    packages.foldlM (fun all e => arrange config flags opening all e.1 e.2) all = none ↔ ∃ e ∈ packages, Unknown config.sArms e.2 := by
  induction packages generalizing all with
  | nil => exact ⟨nofun,fun ⟨_,mem,_⟩ => absurd mem List.not_mem_nil⟩
  | cons e rest ih =>
    rw [List.foldlM_cons,List.exists_mem_cons_iff,←arrange_none sound opening e.1 e.2]
    cases step : arrange config flags opening all e.1 e.2 with
    | none => exact ⟨fun _ => .inl rfl,fun _ => rfl⟩
    | some middle =>
      have kept := arrange_sound sound (nonneg e List.mem_cons_self) step
      exact (ih kept (fun x mem => nonneg x (List.mem_cons_of_mem _ mem))).trans (or_iff_right nofun).symm

end arrange

section allPackages
variable {drawn : List Drawn}

theorem allPackages_last (front : List Drawn) (x : Drawn) : allPackages (front++[x]) = addDrawn (allPackages front) x := by
  unfold allPackages
  rw [List.foldl_append,List.foldl_cons,List.foldl_nil]

theorem number_allPackages (drawn : List Drawn) (ID : Nat) :
    (allPackages drawn).amount Package.number ID = sumOf Drawn.ID Drawn.endNumber ID drawn := by
  induction drawn using List.reverseRecOn with
  | nil => rfl
  | append_singleton front x ih =>
    rw [allPackages_last,sumOf_append,←ih]
    exact (Table.amount_grown rfl ID).trans (congrArg _ (Int.add_zero _).symm)

theorem mem_allPackages (drawn : List Drawn) (ID : Nat) : ID ∈ allPackages drawn ↔ ∃ x ∈ drawn, x.ID = ID := by
  induction drawn using List.reverseRecOn with
  | nil => exact ⟨fun there => absurd there (AList.notMem_empty _),fun ⟨_,mem,_⟩ => absurd mem List.not_mem_nil⟩
  | append_singleton front x ih =>
    rw [allPackages_last]
    unfold addDrawn
    rw [AList.mem_insert,ih]
    simp only [List.mem_append,List.mem_singleton]
    constructor
    · rintro (rfl | ⟨y,mem,same⟩)
      · exact ⟨x,.inr rfl,rfl⟩
      · exact ⟨y,.inl mem,same⟩
    · rintro ⟨y,mem | rfl,same⟩
      · exact .inr ⟨y,mem,same⟩
      · exact .inl same.symm

-- An entry is of its package.
theorem row_allPackages {sItemPackage : Table Nat ItemPackage} (rows : ∀ x ∈ drawn, sItemPackage.lookup x.ID = some x.packageInfo)
    (found : (allPackages drawn).lookup ID = some package) :
    ∃ row, sItemPackage.lookup ID = some row ∧ package.type = row.type ∧ package.typeData = row.typeData := by
  induction drawn using List.reverseRecOn generalizing package with
  | nil => cases found
  | append_singleton front x ih =>
    rw [allPackages_last] at found
    rcases Table.found_insert found with ⟨rfl,rfl⟩ | ⟨_,earlier⟩
    · exact ⟨x.packageInfo,rows x (List.mem_append_right front List.mem_cons_self),rfl,rfl⟩
    · exact ih (fun y mem => rows y (List.mem_append_left _ mem)) earlier

end allPackages

section calls
variable (config : Config) (rounding : Rounding) (role : Role) (flags : Flags) (groupId : Nat)

theorem draw_rows {order : Order Nat} {rounds : List Draws} (mem : x ∈ draw config rounding role groupId order rounds) :
    config.sItemPackage.lookup x.ID = some x.packageInfo ∧ 1 ≤ x.endNumber := by
  obtain ⟨round,_,once⟩ := List.mem_flatMap.mp mem
  obtain ⟨⟨key,part⟩,visited,chosen⟩ := List.mem_filterMap.mp once
  obtain ⟨row,picked,rfl⟩ := Option.map_eq_some_iff.mp chosen
  refine ⟨?_,endNumber_pos _ _ _ _⟩
  have member : row ∈ part := List.mem_of_getElem? picked
  have kept := ((Table.mem_grouped ((Table.mem_pairs order _).mp visited)).mp member).1
  have listed := (List.mem_filter.mp kept).1
  cases loaded : config.reInitsItemPackage.lookup groupId with
  | none =>
    rw [loaded] at listed
    cases listed
  | some rows =>
    rw [loaded] at listed
    exact (Table.mem_pairs config.order config.sItemPackage).mp ((Table.mem_grouped loaded).mp listed).1

-- The packages a call comes to.
def packages (opening : Opening) (rounds : List Draws) : Table Nat Package := allPackages (draw config rounding role groupId opening.order rounds)

theorem packages_row {opening : Opening} {rounds : List Draws} (found : (packages config rounding role groupId opening rounds).lookup ID = some package) :
    ∃ row, config.sItemPackage.lookup ID = some row ∧ package.type = row.type ∧ package.typeData = row.typeData :=
  row_allPackages (fun _ mem => (draw_rows config rounding role groupId mem).1) found

theorem packages_nonneg {opening : Opening} {rounds : List Draws} (found : (packages config rounding role groupId opening rounds).lookup ID = some package) :
    0 ≤ package.number := by
  rw [(Table.amount_some found Package.number).symm.trans (number_allPackages _ _)]
  refine List.sum_nonneg (fun value mem => ?_)
  obtain ⟨x,drawn,rfl⟩ := List.mem_map.mp mem
  have least := (draw_rows config rounding role groupId drawn).2
  split <;> omega

theorem empty_sound (sArms : Nat → Option SArms) (noMerge : Bool) (turnTableId : Option Nat) : Sound sArms noMerge {turnTableId:=turnTableId} :=
  ⟨fun _ => Int.le_refl 0,fun _ _ => rfl,fun _ _ => rfl⟩

theorem empty_total (turnTableId : Option Nat) (kind : Kind) : GroupPackage.total {turnTableId:=turnTableId} kind = 0 := by
  cases kind <;> rfl

-- A missing group goes through the loops as one without rows would.
theorem getGroupPackage_loop (opening : Opening) (rounds : List Draws) :
    ∃ turnTableId, getGroupPackage config rounding role flags groupId opening rounds =
      (Table.pairs opening.order (packages config rounding role groupId opening rounds)).foldlM
        (fun all e => arrange config flags opening all e.1 e.2) {turnTableId:=turnTableId} := by
  unfold getGroupPackage
  split
  next missing =>
    have nothing : draw config rounding role groupId opening.order rounds = [] := by
      unfold draw
      rw [missing]
      refine List.flatMap_eq_nil_iff.mpr (fun round _ => ?_)
      change (Table.pairs opening.order ∅).filterMap _ = []
      rw [Table.pairs_empty]
      rfl
    refine ⟨none,?_⟩
    unfold packages
    rw [nothing]
    change _ = (Table.pairs opening.order ∅).foldlM _ _
    rw [Table.pairs_empty]
    rfl
  next => exact ⟨_,rfl⟩

def share (kind : Kind) (opening : Opening) (rounds : List Draws) (ID : Nat) : Int :=
  ((packages config rounding role groupId opening rounds).lookup ID).elim 0 (fun package => worth kind package (subItems config opening ID package))

theorem called_total {opening : Opening} {rounds : List Draws} (called : getGroupPackage config rounding role flags groupId opening rounds = some packageInfo) :
    Sound config.sArms flags.noMerge packageInfo ∧
      ∀ kind, packageInfo.total kind = ∑ ID ∈ (packages config rounding role groupId opening rounds).keys.toFinset, share config rounding role groupId kind opening rounds ID := by
  obtain ⟨turnTableId,loop⟩ := getGroupPackage_loop config rounding role flags groupId opening rounds
  rw [loop] at called
  have nonneg : ∀ e ∈ Table.pairs opening.order (packages config rounding role groupId opening rounds), 0 ≤ e.2.number :=
    fun e mem => packages_nonneg config rounding role groupId ((Table.mem_pairs _ _).mp mem)
  obtain ⟨sound,total⟩ := arranged_total (empty_sound config.sArms flags.noMerge turnTableId) nonneg called
  refine ⟨sound,fun kind => ?_⟩
  rw [total kind,empty_total,Int.zero_add]
  exact Table.sum_pairs _ _ (fun ID package => worth kind package (subItems config opening ID package))

theorem called_none (opening : Opening) (rounds : List Draws) :
    getGroupPackage config rounding role flags groupId opening rounds = none ↔
      ∃ x ∈ draw config rounding role groupId opening.order rounds, x.packageInfo.type = .soldier ∧ config.sArms x.packageInfo.typeData = none := by
  obtain ⟨turnTableId,loop⟩ := getGroupPackage_loop config rounding role flags groupId opening rounds
  have nonneg : ∀ e ∈ Table.pairs opening.order (packages config rounding role groupId opening rounds), 0 ≤ e.2.number :=
    fun e mem => packages_nonneg config rounding role groupId ((Table.mem_pairs _ _).mp mem)
  rw [loop,arranged_none (empty_sound config.sArms flags.noMerge turnTableId) nonneg]
  constructor
  · rintro ⟨⟨ID,package⟩,visited,soldier,unknown⟩
    have found := (Table.mem_pairs _ _).mp visited
    obtain ⟨x,drawn,rfl⟩ := (mem_allPackages _ ID).mp (Table.mem_of_lookup found)
    obtain ⟨row,named,type,typeData⟩ := packages_row config rounding role groupId found
    rw [(draw_rows config rounding role groupId drawn).1] at named
    cases named
    exact ⟨x,drawn,type.symm.trans soldier,typeData ▸ unknown⟩
  · rintro ⟨x,drawn,soldier,unknown⟩
    obtain ⟨package,found⟩ := Table.lookup_of_mem ((mem_allPackages _ x.ID).mpr ⟨x,drawn,rfl⟩)
    obtain ⟨row,named,type,typeData⟩ := packages_row config rounding role groupId found
    rw [(draw_rows config rounding role groupId drawn).1] at named
    cases named
    exact ⟨⟨x.ID,package⟩,(Table.mem_pairs _ _).mpr found,type.trans soldier,by rw [typeData]; exact unknown⟩

end calls

section sums

theorem sumOf_flatMap (key : α → Nat) (amount : α → Int) (k : Nat) (list : List β) (f : β → List α) :
    sumOf key amount k (list.flatMap f) = (list.map (fun x => sumOf key amount k (f x))).sum := by
  induction list with
  | nil => rfl
  | cons x rest ih => rw [List.flatMap_cons,sumOf_append,ih,List.map_cons,List.sum_cons]

theorem among_perm {items others : List Nat} (same : items.Perm others) (kind : Kind) : among items kind = among others kind := by
  cases kind with
  | item k => exact congrArg Nat.cast (same.count_eq k)
  | _ => rfl

theorem among_flatMap (list : List β) (f : β → List Nat) (kind : Kind) : among (list.flatMap f) kind = (list.map (fun x => among (f x) kind)).sum := by
  induction list with
  | nil => exact among_nil kind
  | cons x rest ih =>
    rw [List.flatMap_cons,List.map_cons,List.sum_cons,←ih]
    cases kind with
    | item k =>
      change ((List.count k (f x++rest.flatMap f) : Nat) : Int) = _
      rw [List.count_append]
      exact Nat.cast_add _ _
    | _ => rfl

theorem sum_swap (list : List β) (keys : Finset Nat) (f : β → Nat → Int) :
    (list.map (fun x => ∑ ID ∈ keys, f x ID)).sum = ∑ ID ∈ keys, (list.map (fun x => f x ID)).sum := by
  induction list with
  | nil => exact Finset.sum_const_zero.symm
  | cons x rest ih =>
    rw [List.map_cons,List.sum_cons,ih,←Finset.sum_add_distrib]
    rfl

end sums

section batch
variable (config : Config) (rounding : Rounding) (role : Role) (flags : Flags) (groupId : Nat)
variable (batch : Opening) (singles : List (Opening × Draws))

-- The rounds of the batch are the draws of the single openings.
def rounds : List Draws := singles.map Prod.snd

theorem draw_singles : (draw config rounding role groupId batch.order (rounds singles)).Perm
    (singles.flatMap (fun one => draw config rounding role groupId one.1.order [one.2])) := by
  unfold draw rounds
  rw [List.flatMap_map]
  refine List.Perm.flatMap_left _ (fun one _ => ?_)
  rw [List.flatMap_singleton]
  exact (Table.pairs_perm _ _ _).filterMap _

theorem number_singles (ID : Nat) : (packages config rounding role groupId batch (rounds singles)).amount Package.number ID =
    (singles.map (fun one => (packages config rounding role groupId one.1 [one.2]).amount Package.number ID)).sum := by
  unfold packages
  simp only [number_allPackages]
  rw [←sumOf_flatMap Drawn.ID Drawn.endNumber ID singles]
  exact ((draw_singles config rounding role groupId batch singles).map _).sum_eq

theorem mem_singles (ID : Nat) : ID ∈ packages config rounding role groupId batch (rounds singles) ↔
    ∃ one ∈ singles, ID ∈ packages config rounding role groupId one.1 [one.2] := by
  unfold packages
  simp only [mem_allPackages,(draw_singles config rounding role groupId batch singles).mem_iff,List.mem_flatMap]
  constructor
  · rintro ⟨x,⟨one,mem,drawn⟩,same⟩
    exact ⟨one,mem,x,drawn,same⟩
  · rintro ⟨one,mem,x,drawn,same⟩
    exact ⟨x,⟨one,mem,drawn⟩,same⟩

-- The items a call draws for a package.
def items (opening : Opening) (rounds : List Draws) (ID : Nat) : List Nat :=
  ((packages config rounding role groupId opening rounds).lookup ID).elim [] (subItems config opening ID)

def rate (kind : Kind) (ID : Nat) : Int :=
  (config.sItemPackage.lookup ID).elim 0 (fun row => if named row.type row.typeData = some kind then 1 else 0)

def gift : Kind → Bool
  | .guildGift _ => true
  | _ => false

theorem named_gift (type : ItemPackageType) (typeData : Nat) (kind : Kind) (same : named type typeData = some kind) : gift kind = true ↔ type = .guildGift := by
  cases type with
  | currency =>
    obtain ⟨name,_,rfl⟩ := Option.map_eq_some_iff.mp same
    exact ⟨nofun,nofun⟩
  | subItemType => cases same
  | none => cases same
  | guildGift => cases same; exact ⟨fun _ => rfl,fun _ => rfl⟩
  | _ => cases same; exact ⟨nofun,nofun⟩

theorem share_amount (other : gift kind = false) (opening : Opening) (rounds : List Draws) (ID : Nat) :
    share config rounding role groupId kind opening rounds ID =
      rate config kind ID*(packages config rounding role groupId opening rounds).amount Package.number ID+among (items config rounding role groupId opening rounds ID) kind := by
  unfold share items
  cases found : (packages config rounding role groupId opening rounds).lookup ID with
  | none =>
    rw [Table.amount_none found,Int.mul_zero,Int.zero_add]
    exact (among_nil kind).symm
  | some package =>
    obtain ⟨row,listed,type,typeData⟩ := packages_row config rounding role groupId found
    rw [Table.amount_some found]
    unfold rate worth
    rw [listed]
    simp only [Option.elim_some,type,typeData]
    split
    next same =>
      have number : counted package = package.number := counted_other (fun is => by
        rw [(named_gift _ _ _ same).mpr (type.symm.trans is)] at other
        cases other)
      rw [number,Int.one_mul]
    next => rw [Int.zero_mul]

theorem share_gift (giftType : Nat) (opening : Opening) (rounds : List Draws) (ID : Nat) :
    share config rounding role groupId (.guildGift giftType) opening rounds ID =
      rate config (.guildGift giftType) ID*if ID ∈ packages config rounding role groupId opening rounds then 1 else 0 := by
  unfold share
  cases found : (packages config rounding role groupId opening rounds).lookup ID with
  | none => rw [if_neg (AList.lookup_eq_none.mp found),Int.mul_zero]; rfl
  | some package =>
    obtain ⟨row,listed,type,typeData⟩ := packages_row config rounding role groupId found
    rw [if_pos (Table.mem_of_lookup found),Int.mul_one]
    unfold rate worth
    rw [listed]
    simp only [Option.elim_some,type,typeData]
    split
    next same =>
      have once : counted package = 1 := if_pos (type.trans ((named_gift _ _ _ same).mp rfl))
      rw [once]
      rfl
    next => rfl

-- The items drawn for a package of a sub type are the same, in any order.
def SameDraws : Prop :=
  ∀ ID, (items config rounding role groupId batch (rounds singles) ID).Perm
    (singles.flatMap (fun one => items config rounding role groupId one.1 [one.2] ID))

theorem shares_same (same : SameDraws config rounding role groupId batch singles) (other : gift kind = false) (ID : Nat) :
    share config rounding role groupId kind batch (rounds singles) ID =
      (singles.map (fun one => share config rounding role groupId kind one.1 [one.2] ID)).sum := by
  simp only [share_amount config rounding role groupId other]
  rw [List.sum_map_add,List.sum_map_mul_left,←number_singles config rounding role groupId batch,among_perm (same ID) kind,among_flatMap]

def drawnBy (one : Opening × Draws) (ID : Nat) : Bool := (draw config rounding role groupId one.1.order [one.2]).any (fun x => x.ID == ID)

theorem mem_drawnBy (one : Opening × Draws) (ID : Nat) : drawnBy config rounding role groupId one ID = true ↔ ID ∈ packages config rounding role groupId one.1 [one.2] := by
  unfold drawnBy packages
  rw [List.any_eq_true,mem_allPackages]
  simp only [beq_iff_eq]

theorem gifts_counted (giftType ID : Nat) :
    (singles.map (fun one => share config rounding role groupId (.guildGift giftType) one.1 [one.2] ID)).sum =
      rate config (.guildGift giftType) ID*(singles.countP (drawnBy config rounding role groupId · ID) : Nat) := by
  simp only [share_gift]
  rw [List.sum_map_mul_left]
  refine congrArg _ ?_
  induction singles with
  | nil => rfl
  | cons one rest ih =>
    rw [List.map_cons,List.sum_cons,ih,List.countP_cons,Nat.cast_add,Int.add_comm]
    refine congrArg _ ?_
    by_cases drawn : ID ∈ packages config rounding role groupId one.1 [one.2]
    · rw [if_pos drawn,if_pos ((mem_drawnBy config rounding role groupId one ID).mpr drawn)]; rfl
    · rw [if_neg drawn,if_neg (fun by_one => drawn ((mem_drawnBy config rounding role groupId one ID).mp by_one))]; rfl

-- No guild gift is drawn in two of the openings.
def Apart : Prop := ∀ ID row, config.sItemPackage.lookup ID = some row → row.type = .guildGift →
  singles.countP (drawnBy config rounding role groupId · ID) ≤ 1

-- Soldiers s_Arms does not have are drawn.
def UnknownSoldier : Prop := ∃ one ∈ singles, ∃ x ∈ draw config rounding role groupId one.1.order [one.2],
  x.packageInfo.type = .soldier ∧ config.sArms x.packageInfo.typeData = none

-- The single openings, their rewards merged.
def merged : Option Reward :=
  singles.foldlM (fun raw one => (getItemPackage config rounding role flags groupId one.1 [one.2]).map (mergeReward raw)) {}

section openings
variable {config rounding role flags groupId batch singles}

theorem single_total (positive : 0 < groupId) {one : Opening × Draws} (got : getItemPackage config rounding role flags groupId one.1 [one.2] = some reward) (kind : Kind) :
    reward.total kind = ∑ ID ∈ (packages config rounding role groupId one.1 [one.2]).keys.toFinset, share config rounding role groupId kind one.1 [one.2] ID := by
  unfold getItemPackage at got
  rw [if_neg positive.ne'] at got
  obtain ⟨packageInfo,called,rfl⟩ := Option.map_eq_some_iff.mp got
  obtain ⟨sound,total⟩ := called_total config rounding role flags groupId called
  rw [total_rewardInfo sound,total kind]

theorem single_none (flags : Flags) (positive : 0 < groupId) (one : Opening × Draws) :
    getItemPackage config rounding role flags groupId one.1 [one.2] = none ↔
      ∃ x ∈ draw config rounding role groupId one.1.order [one.2], x.packageInfo.type = .soldier ∧ config.sArms x.packageInfo.typeData = none := by
  unfold getItemPackage
  rw [if_neg positive.ne',Option.map_eq_none_iff,called_none]

theorem merged_none (positive : 0 < groupId) (raw : Reward) :
    singles.foldlM (fun raw one => (getItemPackage config rounding role flags groupId one.1 [one.2]).map (mergeReward raw)) raw = none ↔
      UnknownSoldier config rounding role groupId singles := by
  unfold UnknownSoldier
  induction singles generalizing raw with
  | nil => exact ⟨nofun,fun ⟨_,mem,_⟩ => absurd mem List.not_mem_nil⟩
  | cons one rest ih =>
    rw [List.foldlM_cons,List.exists_mem_cons_iff,←single_none flags positive one]
    cases getItemPackage config rounding role flags groupId one.1 [one.2] with
    | none => exact ⟨fun _ => .inl rfl,fun _ => rfl⟩
    | some reward => exact (ih _).trans (or_iff_right nofun).symm

theorem merged_sum (positive : 0 < groupId) {raw reward : Reward}
    (merged : singles.foldlM (fun raw one => (getItemPackage config rounding role flags groupId one.1 [one.2]).map (mergeReward raw)) raw = some reward) (kind : Kind) :
    reward.total kind = raw.total kind+(singles.map (fun one =>
      ∑ ID ∈ (packages config rounding role groupId one.1 [one.2]).keys.toFinset, share config rounding role groupId kind one.1 [one.2] ID)).sum := by
  induction singles generalizing raw with
  | nil =>
    cases merged
    exact (Int.add_zero _).symm
  | cons one rest ih =>
    rw [List.foldlM_cons] at merged
    obtain ⟨middle,step,later⟩ := Option.bind_eq_some_iff.mp merged
    obtain ⟨add,got,rfl⟩ := Option.map_eq_some_iff.mp step
    rw [ih later,total_mergeReward,single_total positive got kind,List.map_cons,List.sum_cons,Int.add_assoc]

-- Summed over the packages of the batch.
theorem merged_total (positive : 0 < groupId) (batch : Opening) (all : merged config rounding role flags groupId singles = some reward) (kind : Kind) :
    reward.total kind = ∑ ID ∈ (packages config rounding role groupId batch (rounds singles)).keys.toFinset,
      (singles.map (fun one => share config rounding role groupId kind one.1 [one.2] ID)).sum := by
  rw [merged_sum positive all kind,←sum_swap]
  have nothing : Reward.total {} kind = 0 := by cases kind <;> rfl
  rw [nothing,Int.zero_add]
  refine congrArg List.sum (List.map_congr_left (fun one mem => Finset.sum_subset ?_ ?_))
  · intro ID drawn
    rw [List.mem_toFinset,←AList.mem_keys] at drawn ⊢
    exact (mem_singles config rounding role groupId batch singles ID).mpr ⟨one,mem,drawn⟩
  · intro ID _ absent
    unfold share
    rw [AList.lookup_eq_none.mpr (fun there => absent (List.mem_toFinset.mpr (AList.mem_keys.mp there)))]
    rfl

theorem rate_cases (config : Config) (kind : Kind) (ID : Nat) : rate config kind ID = 0 ∨
    rate config kind ID = 1 ∧ ∃ row, config.sItemPackage.lookup ID = some row ∧ named row.type row.typeData = some kind := by
  unfold rate
  cases config.sItemPackage.lookup ID with
  | none => exact .inl rfl
  | some row =>
    rw [Option.elim_some]
    split
    next same => exact .inr ⟨rfl,row,rfl,same⟩
    next => exact .inl rfl

-- What the batch counts of a gift and what the openings do.
theorem gift_le (batch : Opening) (giftType : Nat) (there : ID ∈ packages config rounding role groupId batch (rounds singles)) :
    0 < singles.countP (drawnBy config rounding role groupId · ID) ∧
      share config rounding role groupId (.guildGift giftType) batch (rounds singles) ID ≤
        (singles.map (fun one => share config rounding role groupId (.guildGift giftType) one.1 [one.2] ID)).sum := by
  obtain ⟨one,mem,drawn⟩ := (mem_singles config rounding role groupId batch singles ID).mp there
  have some_one : 0 < singles.countP (drawnBy config rounding role groupId · ID) :=
    List.countP_pos_iff.mpr ⟨one,mem,(mem_drawnBy config rounding role groupId one ID).mpr drawn⟩
  refine ⟨some_one,?_⟩
  rw [share_gift,if_pos there,gifts_counted]
  rcases rate_cases config (.guildGift giftType) ID with zero | ⟨unit,_⟩
  · rw [zero]; omega
  · rw [unit]; omega

theorem gifts_same (batch : Opening) :
    (∀ giftType, ∑ ID ∈ (packages config rounding role groupId batch (rounds singles)).keys.toFinset, share config rounding role groupId (.guildGift giftType) batch (rounds singles) ID =
      ∑ ID ∈ (packages config rounding role groupId batch (rounds singles)).keys.toFinset,
        (singles.map (fun one => share config rounding role groupId (.guildGift giftType) one.1 [one.2] ID)).sum) ↔
      Apart config rounding role groupId singles := by
  have within : ∀ giftType, ∀ ID ∈ (packages config rounding role groupId batch (rounds singles)).keys.toFinset,
      share config rounding role groupId (.guildGift giftType) batch (rounds singles) ID ≤
        (singles.map (fun one => share config rounding role groupId (.guildGift giftType) one.1 [one.2] ID)).sum :=
    fun giftType ID mem => (gift_le batch giftType (AList.mem_keys.mpr (List.mem_toFinset.mp mem))).2
  constructor
  · intro equal ID row listed type
    by_cases there : ID ∈ packages config rounding role groupId batch (rounds singles)
    · have each := (Finset.sum_eq_sum_iff_of_le (within row.typeData)).mp (equal row.typeData) ID (List.mem_toFinset.mpr (AList.mem_keys.mp there))
      have unit : rate config (.guildGift row.typeData) ID = 1 := by
        unfold rate
        rw [listed,Option.elim_some,type]
        exact if_pos rfl
      rw [share_gift,if_pos there,gifts_counted,unit] at each
      omega
    · refine Nat.le_of_not_lt (fun twice => there ?_)
      obtain ⟨one,mem,drawn⟩ := List.countP_pos_iff.mp (Nat.zero_lt_one.trans twice)
      exact (mem_singles config rounding role groupId batch singles ID).mpr ⟨one,mem,(mem_drawnBy config rounding role groupId one ID).mp drawn⟩
  · intro apart giftType
    refine (Finset.sum_eq_sum_iff_of_le (within giftType)).mpr (fun ID mem => ?_)
    have there : ID ∈ packages config rounding role groupId batch (rounds singles) := AList.mem_keys.mpr (List.mem_toFinset.mp mem)
    rw [share_gift,if_pos there,gifts_counted]
    rcases rate_cases config (.guildGift giftType) ID with zero | ⟨_,row,listed,same⟩
    · rw [zero,Int.zero_mul,Int.zero_mul]
    · have most := apart ID row listed ((named_gift _ _ _ same).mp rfl)
      have least := (gift_le batch giftType there).1
      rw [Nat.le_antisymm most least]
      rfl

end openings

-- A batch opens like the single openings with the same draws, but for guild gifts: those it
-- counts by the packages, not by how often they were drawn.
theorem openings_agree (positive : 0 < groupId) (same : SameDraws config rounding role groupId batch singles) :
    (∀ kind, gift kind = false →
      (getGroupPackage config rounding role flags groupId batch (rounds singles)).map (GroupPackage.total · kind) =
        (merged config rounding role flags groupId singles).map (Reward.total · kind)) ∧
      ((getGroupPackage config rounding role flags groupId batch (rounds singles)).map GroupPackage.total =
        (merged config rounding role flags groupId singles).map Reward.total ↔
          Apart config rounding role groupId singles ∨ UnknownSoldier config rounding role groupId singles) := by
  have raises : getGroupPackage config rounding role flags groupId batch (rounds singles) = none ↔ UnknownSoldier config rounding role groupId singles := by
    rw [called_none]
    unfold UnknownSoldier
    simp only [(draw_singles config rounding role groupId batch singles).mem_iff,List.mem_flatMap]
    constructor
    · rintro ⟨x,⟨one,mem,drawn⟩,unknown⟩
      exact ⟨one,mem,x,drawn,unknown⟩
    · rintro ⟨one,mem,x,drawn,unknown⟩
      exact ⟨x,⟨one,mem,drawn⟩,unknown⟩
  have raises_merged : merged config rounding role flags groupId singles = none ↔ UnknownSoldier config rounding role groupId singles := merged_none positive {}
  cases called : getGroupPackage config rounding role flags groupId batch (rounds singles) with
  | none =>
    have unknown := raises.mp called
    rw [raises_merged.mpr unknown]
    exact ⟨fun _ _ => rfl,fun _ => .inr unknown,fun _ => rfl⟩
  | some packageInfo =>
    have known : ¬ UnknownSoldier config rounding role groupId singles := fun unknown => by
      rw [raises.mpr unknown] at called
      cases called
    obtain ⟨reward,all⟩ := Option.ne_none_iff_exists'.mp (fun nothing => known (raises_merged.mp nothing))
    have total := (called_total config rounding role flags groupId called).2
    have total_merged := merged_total positive batch all
    have others : ∀ kind, gift kind = false → packageInfo.total kind = reward.total kind := by
      intro kind other
      rw [total kind,total_merged kind]
      exact Finset.sum_congr rfl (fun ID _ => shares_same config rounding role groupId batch singles same other ID)
    rw [all]
    refine ⟨fun kind other => congrArg some (others kind other),?_⟩
    rw [or_iff_left known,←gifts_same batch]
    simp only [←total,←total_merged]
    constructor
    · intro equal giftType
      exact congrFun (Option.some.inj equal) _
    · intro gifts
      refine congrArg some (funext (fun kind => ?_))
      cases kind with
      | guildGift giftType => exact gifts giftType
      | _ => exact others _ rfl

theorem same_of_rows (each : ∀ ID ∈ config.sItemPackage.keys, (items config rounding role groupId batch (rounds singles) ID).Perm
    (singles.flatMap (fun one => items config rounding role groupId one.1 [one.2] ID))) : SameDraws config rounding role groupId batch singles := by
  intro ID
  by_cases row : ID ∈ config.sItemPackage
  · exact each ID (AList.mem_keys.mp row)
  · have nothing : ∀ opening rounds, items config rounding role groupId opening rounds ID = [] := by
      intro opening rounds
      unfold items
      cases found : (packages config rounding role groupId opening rounds).lookup ID with
      | none => rfl
      | some package =>
        obtain ⟨_,listed,_⟩ := packages_row config rounding role groupId found
        exact absurd (Table.mem_of_lookup listed) row
    simp only [nothing]
    rw [List.flatMap_eq_nil_iff.mpr (fun _ _ => rfl)]

end batch

-- A chest with a guild gift or some food, and two items of a sub type.
def chest : Config where
  sItemPackage := (((∅ : Table Nat ItemPackage).insert 1 ⟨1,1,.guildGift,7,1,100,0,0,0,[]⟩).insert 2 ⟨1,1,.currency,100,500,100,0,0,0,[0]⟩).insert 3
    ⟨1,2,.subItemType,5,2,100,0,0,0,[2]⟩
  sArms _ := none
  sItem := ((∅ : Table Nat Nat).insert 50 5).insert 51 5
  order := .stored

def once (place : Nat) (subItem : Nat) : Opening × Draws :=
  (⟨.stored,fun _ => false,fun _ _ => subItem⟩,⟨fun group => if group = 1 then place else 0,fun _ => 0⟩)

-- Four items of the sub type at once, two of each.
def atOnce : Opening := ⟨.stored,fun _ => false,fun _ i => i⟩

theorem gift_and_food_agree :
    (getGroupPackage chest .exact ⟨2,10⟩ ⟨false,false⟩ 1 atOnce (rounds [once 0 0,once 1 1])).map GroupPackage.total =
      (merged chest .exact ⟨2,10⟩ ⟨false,false⟩ 1 [once 0 0,once 1 1]).map Reward.total := by
  have apart : ∀ ID ∈ chest.sItemPackage.keys, (chest.sItemPackage.lookup ID).any (fun row => decide (row.type = .guildGift)) = true →
      [once 0 0,once 1 1].countP (drawnBy chest .exact ⟨2,10⟩ 1 · ID) ≤ 1 := by decide
  have same : SameDraws chest .exact ⟨2,10⟩ 1 atOnce [once 0 0,once 1 1] := same_of_rows _ _ _ _ _ _ (by decide)
  refine (openings_agree chest .exact ⟨2,10⟩ ⟨false,false⟩ 1 atOnce [once 0 0,once 1 1] Nat.one_pos same).2.mpr (.inl ?_)
  intro ID row listed type
  exact apart ID (AList.mem_keys.mp (Table.mem_of_lookup listed)) (by rw [listed]; exact decide_eq_true type)

-- The same gift drawn twice.
theorem gift_lost :
    SameDraws chest .exact ⟨2,10⟩ 1 atOnce [once 1 0,once 1 1] ∧
      (getGroupPackage chest .exact ⟨2,10⟩ ⟨false,false⟩ 1 atOnce (rounds [once 1 0,once 1 1])).map (GroupPackage.total · (.guildGift 7)) = some 1 ∧
      (merged chest .exact ⟨2,10⟩ ⟨false,false⟩ 1 [once 1 0,once 1 1]).map (Reward.total · (.guildGift 7)) = some 2 :=
  ⟨same_of_rows _ _ _ _ _ _ (by decide),by decide,by decide⟩

end OriginGame.ItemPackages
