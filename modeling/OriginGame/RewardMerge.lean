import Mathlib.Algebra.Order.BigOperators.Group.List
import Mathlib.Tactic.Abel
import OriginGame.RewardTables

namespace OriginGame.ItemPackages

-- A kind of entry: what stays of an entry that grows, and its numbers, of which the first
-- is the amount.
structure Growth (α : Type) where
  Label : Type
  key : α → Nat
  grow : α → α → α
  label : α → Label
  num : α → Int × Int
  ext : ∀ x y, label x = label y → num x = num y → x = y
  key_label : ∀ x y, label x = label y → key x = key y
  label_grow : ∀ x y, label (grow x y) = label x
  num_grow : ∀ x y, num (grow x y) = num x+num y

namespace Growth

section lists
variable {α : Type} (g : Growth α)

def ofKey (k : Nat) (list : List α) : List α := list.filter (fun x => g.key x = k)

theorem key_grow (x y : α) : g.key (g.grow x y) = g.key x := g.key_label _ _ (g.label_grow x y)

theorem label_foldl (list : List α) (x : α) : g.label (list.foldl g.grow x) = g.label x := by
  induction list generalizing x with
  | nil => rfl
  | cons y rest ih => rw [List.foldl_cons,ih,g.label_grow]

theorem num_foldl (list : List α) (x : α) : g.num (list.foldl g.grow x) = g.num x+(list.map g.num).sum := by
  induction list generalizing x with
  | nil => simp
  | cons y rest ih => rw [List.foldl_cons,ih,g.num_grow,List.map_cons,List.sum_cons,add_assoc]

-- Of one key: all of the second list goes into the first entry.
def gather : List α → List α → List α
  | [],[] => []
  | [],y::rest => [rest.foldl g.grow y]
  | x::rest,more => more.foldl g.grow x::rest

theorem ofKey_bump (k : Nat) (list : List α) (x : α) :
    g.ofKey k (bump g.key g.grow list x) = if g.key x = k then g.gather (g.ofKey k list) [x] else g.ofKey k list := by
  induction list with
  | nil =>
    unfold bump ofKey
    rw [List.filter_singleton]
    by_cases same : g.key x = k <;> simp [same,gather]
  | cons y rest ih =>
    unfold bump
    by_cases met : g.key y = g.key x
    · rw [if_pos met]
      unfold ofKey
      by_cases same : g.key x = k <;> simp [same,met,g.key_grow,gather]
    · rw [if_neg met]
      unfold ofKey at ih ⊢
      by_cases here : g.key y = k
      · have other : g.key x ≠ k := fun same => met (here.trans same.symm)
        rw [if_neg other] at ih ⊢
        simp only [List.filter_cons,here,decide_true,if_true,ih]
      · simp only [List.filter_cons,here,decide_false,ih]
        rfl

theorem gather_cons (first more : List α) (y : α) : g.gather (g.gather first [y]) more = g.gather first (y::more) := by
  cases first with
  | nil => rfl
  | cons x rest => rfl

theorem ofKey_merged (k : Nat) (raw add : List α) :
    g.ofKey k (add.foldl (bump g.key g.grow) raw) = g.gather (g.ofKey k raw) (g.ofKey k add) := by
  induction add generalizing raw with
  | nil =>
    change _ = g.gather _ []
    cases held : g.ofKey k raw with
    | nil => exact held
    | cons x rest => exact held
  | cons y more ih =>
    rw [List.foldl_cons,ih,ofKey_bump]
    by_cases same : g.key y = k
    · have head : g.ofKey k (y::more) = y::g.ofKey k more := List.filter_cons_of_pos (decide_eq_true same)
      rw [if_pos same,head,gather_cons]
    · have head : g.ofKey k (y::more) = g.ofKey k more := List.filter_cons_of_neg (by simpa using same)
      rw [if_neg same,head]

-- Lists are the same up to order when they are for each key.
theorem perm_iff (first second : List α) : first.Perm second ↔ ∀ k, (g.ofKey k first).Perm (g.ofKey k second) := by
  classical
  constructor
  · intro perm k
    exact perm.filter _
  · intro same
    apply List.perm_iff_count.mpr
    intro x
    have held (list : List α) : (g.ofKey (g.key x) list).count x = list.count x := List.count_filter (decide_eq_true rfl)
    rw [← held first,← held second]
    exact (same (g.key x)).count_eq x

theorem gather_assoc (first second third : List α) : g.gather (g.gather first second) third = g.gather first (g.gather second third) := by
  cases first with
  | nil =>
    cases second with
    | nil => cases third <;> rfl
    | cons y rest =>
      change [third.foldl g.grow (rest.foldl g.grow y)] = [rest.foldl g.grow (third.foldl g.grow y)]
      congr 1
      apply g.ext
      · simp only [label_foldl]
      · simp only [num_foldl]
        exact add_right_comm _ _ _
  | cons x rest =>
    cases second with
    | nil =>
      change third.foldl g.grow x::rest = (g.gather [] third).foldl g.grow x::rest
      cases third with
      | nil => rfl
      | cons z more =>
        change (z::more).foldl g.grow x::rest = [more.foldl g.grow z].foldl g.grow x::rest
        congr 1
        apply g.ext
        · simp only [label_foldl]
        · simp only [num_foldl,List.map_cons,List.sum_cons,List.map_nil,List.sum_nil,add_zero]
    | cons y more =>
      change third.foldl g.grow ((y::more).foldl g.grow x)::rest = (third.foldl g.grow y::more).foldl g.grow x::rest
      congr 1
      apply g.ext
      · simp only [label_foldl]
      · simp only [num_foldl,List.map_cons,List.sum_cons,add_assoc]
        congr 2
        exact add_comm _ _

-- Of one key: the entries after the first are the same, and two first ones differ in numbers only.
structure Alike (first second : List α) : Prop where
  rest : first.tail.Perm second.tail
  heads : ∀ x ∈ first.head?, ∀ y ∈ second.head?, g.label x = g.label y

-- The other way in which the order of merging does not show: the numbers of the first entries
-- and of what follows both add up to zero, so that each merged entry is one that the other
-- list has.
def Cancel (first second : List α) : Prop := ∃ x y u v rest left more,
  first = x::left ∧ second = y::more ∧ left.Perm (v::rest) ∧ more.Perm (u::rest) ∧
    g.label u = g.label x ∧ g.label v = g.label y ∧ g.num x+g.num y+(rest.map g.num).sum = 0

theorem gather_alike {first second : List α} (alike : g.Alike first second) : (g.gather first second).Perm (g.gather second first) := by
  obtain ⟨rest,heads⟩ := alike
  cases first with
  | nil =>
    cases second with
    | nil => exact .refl _
    | cons y more =>
      obtain rfl : more = [] := List.nil_perm.mp rest
      exact .refl _
  | cons x left =>
    cases second with
    | nil =>
      obtain rfl : left = [] := List.perm_nil.mp rest
      exact .refl _
    | cons y more =>
      have same : (y::more).foldl g.grow x = (x::left).foldl g.grow y := by
        apply g.ext
        · rw [label_foldl,label_foldl]
          exact heads x rfl y rfl
        · have sums : (left.map g.num).sum = (more.map g.num).sum := (rest.map g.num).sum_eq
          simp only [num_foldl,List.map_cons,List.sum_cons,sums]
          exact add_left_comm _ _ _
      change ((y::more).foldl g.grow x::left).Perm ((x::left).foldl g.grow y::more)
      rw [same]
      exact rest.cons _

theorem gather_cancel {first second : List α} (cancel : g.Cancel first second) : (g.gather first second).Perm (g.gather second first) := by
  obtain ⟨x,y,u,v,rest,left,more,rfl,rfl,one,two,likeX,likeY,zero⟩ := cancel
  have sumLeft : (left.map g.num).sum = g.num v+(rest.map g.num).sum := by
    rw [(one.map g.num).sum_eq,List.map_cons,List.sum_cons]
  have sumMore : (more.map g.num).sum = g.num u+(rest.map g.num).sum := by
    rw [(two.map g.num).sum_eq,List.map_cons,List.sum_cons]
  have head : (y::more).foldl g.grow x = u := by
    apply g.ext
    · rw [label_foldl,likeX]
    · rw [num_foldl,List.map_cons,List.sum_cons,sumMore]
      calc g.num x+(g.num y+(g.num u+(rest.map g.num).sum)) = g.num u+(g.num x+g.num y+(rest.map g.num).sum) := by abel
        _ = g.num u := by rw [zero,add_zero]
  have other : (x::left).foldl g.grow y = v := by
    apply g.ext
    · rw [label_foldl,likeY]
    · rw [num_foldl,List.map_cons,List.sum_cons,sumLeft]
      calc g.num y+(g.num x+(g.num v+(rest.map g.num).sum)) = g.num v+(g.num x+g.num y+(rest.map g.num).sum) := by abel
        _ = g.num v := by rw [zero,add_zero]
  change ((y::more).foldl g.grow x::left).Perm ((x::left).foldl g.grow y::more)
  rw [head,other]
  exact ((one.cons u).trans (List.Perm.swap v u rest)).trans (two.cons v).symm

def Match (first second : List α) : Prop := g.Alike first second ∨ g.Cancel first second

theorem match_of_comm {first second : List α} (comm : (g.gather first second).Perm (g.gather second first)) : g.Match first second := by
  classical
  cases first with
  | nil =>
    cases second with
    | nil => exact .inl ⟨.refl _,fun x none => by cases none⟩
    | cons y more =>
      have lengths := comm.length_eq
      change 1 = more.length+1 at lengths
      obtain rfl : more = [] := List.length_eq_zero_iff.mp (by omega)
      exact .inl ⟨.refl _,fun x none => by cases none⟩
  | cons x left =>
    cases second with
    | nil =>
      have lengths := comm.length_eq
      change left.length+1 = 1 at lengths
      obtain rfl : left = [] := List.length_eq_zero_iff.mp (by omega)
      exact .inl ⟨.refl _,fun _ _ y none => by cases none⟩
    | cons y more =>
      change ((y::more).foldl g.grow x::left).Perm ((x::left).foldl g.grow y::more) at comm
      generalize grownX : (y::more).foldl g.grow x = u at comm
      generalize grownY : (x::left).foldl g.grow y = v at comm
      have likeX : g.label u = g.label x := by rw [← grownX,label_foldl]
      have likeY : g.label v = g.label y := by rw [← grownY,label_foldl]
      rcases List.mem_cons.mp (comm.subset List.mem_cons_self) with same | later
      · rw [same] at comm
        refine .inl ⟨comm.cons_inv,?_⟩
        intro x' is y' its
        cases is
        cases its
        rw [← likeX,same,likeY]
      · -- What x has grown to is among the others of the second list, and the rest follows.
        have split := List.perm_cons_erase later
        have rest : left.Perm (v::more.erase u) := by
          apply List.Perm.cons_inv (a:=u)
          exact (comm.trans (split.cons v)).trans (List.Perm.swap u v _)
        refine .inr ⟨x,y,u,v,more.erase u,left,more,rfl,rfl,rest,split,likeX,likeY,?_⟩
        have amount : g.num u = g.num x+(g.num y+(more.map g.num).sum) := by
          rw [← grownX,num_foldl,List.map_cons,List.sum_cons]
        rw [(split.map g.num).sum_eq,List.map_cons,List.sum_cons] at amount
        apply add_left_cancel (a:=g.num u)
        calc g.num u+(g.num x+g.num y+((more.erase u).map g.num).sum) = g.num x+(g.num y+(g.num u+((more.erase u).map g.num).sum)) := by abel
          _ = g.num u+0 := by rw [← amount,add_zero]

theorem gather_comm (first second : List α) : (g.gather first second).Perm (g.gather second first) ↔ g.Match first second := by
  constructor
  · exact g.match_of_comm
  · rintro (alike | cancel)
    · exact g.gather_alike alike
    · exact g.gather_cancel cancel

theorem sum_amounts (list : List α) : ((list.map g.num).sum).1 = (list.map (fun x => (g.num x).1)).sum := by
  induction list with
  | nil => rfl
  | cons x rest ih =>
    rw [List.map_cons,List.sum_cons,Prod.fst_add,ih,List.map_cons,List.sum_cons]

-- Positive amounts do not cancel.
theorem alike_of_match {first second : List α} (some : ∀ x ∈ first, 0 < (g.num x).1) (positive : ∀ y ∈ second, 0 < (g.num y).1)
    (both : g.Match first second) : g.Alike first second := by
  rcases both with alike | cancel
  · exact alike
  · obtain ⟨x,y,u,v,rest,left,more,rfl,rfl,one,two,_,_,zero⟩ := cancel
    exfalso
    have sum := congrArg Prod.fst zero
    rw [Prod.fst_add,Prod.fst_add,sum_amounts] at sum
    have least : 0 ≤ (rest.map (fun z => (g.num z).1)).sum := by
      apply List.sum_nonneg
      intro value inside
      obtain ⟨z,held,rfl⟩ := List.mem_map.mp inside
      exact (positive z (List.mem_cons_of_mem _ (two.mem_iff.mpr (List.mem_cons_of_mem _ held)))).le
    have head := some x List.mem_cons_self
    have other := positive y List.mem_cons_self
    change (g.num x).1+(g.num y).1+_ = 0 at sum
    omega

-- A key that the first list lacks is in the second at most once.
theorem single_of_match {raw add : List α} (both : ∀ k, g.Match (g.ofKey k raw) (g.ofKey k add)) :
    add.Pairwise (fun first second => g.key first = g.key second → ∃ x ∈ raw, g.key x = g.key first) := by
  rw [List.pairwise_iff_forall_sublist]
  intro first second pair same
  by_contra none
  have empty : g.ofKey (g.key first) raw = [] := by
    apply List.filter_eq_nil_iff.mpr
    intro x there equal
    exact none ⟨x,there,of_decide_eq_true equal⟩
  have few : (g.ofKey (g.key first) add).tail.length = 0 := by
    have at_ := both (g.key first)
    rw [empty] at at_
    rcases at_ with alike | cancel
    · exact alike.rest.length_eq.symm
    · obtain ⟨x,_,_,_,_,left,_,held,_⟩ := cancel
      cases held
  have two := (pair.filter (fun x => decide (g.key x = g.key first))).length_le
  rw [List.filter_cons_of_pos (by simp),List.filter_cons_of_pos (by simpa using same.symm)] at two
  rw [List.length_tail] at few
  change _ ≤ (g.ofKey (g.key first) add).length at two
  simp at two few
  omega

theorem comm_iff (raw add : List α) :
    (add.foldl (bump g.key g.grow) raw).Perm (raw.foldl (bump g.key g.grow) add) ↔ ∀ k, g.Match (g.ofKey k raw) (g.ofKey k add) := by
  rw [g.perm_iff]
  apply forall_congr'
  intro k
  rw [ofKey_merged,ofKey_merged]
  exact g.gather_comm _ _

theorem merge_assoc (first second third : List α) :
    (third.foldl (bump g.key g.grow) (second.foldl (bump g.key g.grow) first)).Perm
      ((third.foldl (bump g.key g.grow) second).foldl (bump g.key g.grow) first) := by
  rw [g.perm_iff]
  intro k
  simp only [ofKey_merged]
  rw [gather_assoc]

theorem second_kept {raw add : List α} (both : ∀ k, g.Match (g.ofKey k raw) (g.ofKey k add)) : (mergeList g.key g.grow raw add).2 = add :=
  mergeList_second g.key_grow raw add (g.single_of_match both)

end lists

def items : Growth Item where
  Label := Nat
  key := Item.itemId
  grow := growItem
  label := Item.itemId
  num item := (item.itemNum,0)
  ext := by
    rintro ⟨_,_⟩ ⟨_,_⟩ rfl same
    cases same
    rfl
  key_label _ _ same := same
  label_grow _ _ := rfl
  num_grow _ _ := rfl

def soldiers : Growth RewardSoldier where
  Label := Nat × Nat × Nat
  key := RewardSoldier.id
  grow := growSoldier
  label soldier := (soldier.id,soldier.type,soldier.level)
  num soldier := (soldier.num,0)
  ext := by
    rintro ⟨_,_,_,_⟩ ⟨_,_,_,_⟩ like same
    cases like
    cases same
    rfl
  key_label _ _ same := congrArg Prod.fst same
  label_grow _ _ := rfl
  num_grow _ _ := rfl

def heros : Growth Hero where
  Label := Nat
  key := Hero.heroId
  grow := growHero
  label := Hero.heroId
  num hero := (hero.num,hero.isNew)
  ext := by
    rintro ⟨_,_,_⟩ ⟨_,_,_⟩ rfl same
    cases same
    rfl
  key_label _ _ same := same
  label_grow _ _ := rfl
  num_grow _ _ := rfl

def guildGifts : Growth Gift where
  Label := Nat
  key := Gift.giftType
  grow := growGift
  label := Gift.giftType
  num gift := (gift.giftNum,0)
  ext := by
    rintro ⟨_,_⟩ ⟨_,_⟩ rfl same
    cases same
    rfl
  key_label _ _ same := same
  label_grow _ _ := rfl
  num_grow _ _ := rfl

end Growth

-- Two rewards that differ in the order of their entries only.
structure Same (first second : Reward) : Prop where
  currencies : first.currencies = second.currencies
  items : first.items.Perm second.items
  soldiers : first.soldiers.Perm second.soldiers
  heros : first.heros.Perm second.heros
  guildGifts : first.guildGifts.Perm second.guildGifts

structure Merges (a b c : Reward) : Prop where
  totals : ∀ kind, (mergeTables a b).1.total kind = a.total kind+b.total kind
  comm : Same (mergeTables a b).1 (mergeTables b a).1
  assoc : Same (mergeTables (mergeTables a b).1 c).1 (mergeTables a (mergeTables b c).1).1
  second : ∀ kind, (mergeTables a b).2.total kind = b.total kind

-- What the entries of each key have to be.
structure Uniform (a b : Reward) : Prop where
  items : ∀ k, Growth.items.Match (Growth.items.ofKey k a.items) (Growth.items.ofKey k b.items)
  soldiers : ∀ k, Growth.soldiers.Match (Growth.soldiers.ofKey k a.soldiers) (Growth.soldiers.ofKey k b.soldiers)
  heros : ∀ k, Growth.heros.Match (Growth.heros.ofKey k a.heros) (Growth.heros.ofKey k b.heros)
  guildGifts : ∀ k, Growth.guildGifts.Match (Growth.guildGifts.ofKey k a.guildGifts) (Growth.guildGifts.ofKey k b.guildGifts)

theorem mergeReward_comm (a b : Reward) : Same (mergeReward a b) (mergeReward b a) ↔ Uniform a b := by
  constructor
  · intro same
    exact ⟨(Growth.items.comm_iff _ _).mp same.items,(Growth.soldiers.comm_iff _ _).mp same.soldiers,
      (Growth.heros.comm_iff _ _).mp same.heros,(Growth.guildGifts.comm_iff _ _).mp same.guildGifts⟩
  · intro uniform
    refine ⟨?_,(Growth.items.comm_iff _ _).mpr uniform.items,(Growth.soldiers.comm_iff _ _).mpr uniform.soldiers,
      (Growth.heros.comm_iff _ _).mpr uniform.heros,(Growth.guildGifts.comm_iff _ _).mpr uniform.guildGifts⟩
    funext name
    unfold mergeReward
    dsimp only
    cases a.currencies name with
    | none => cases b.currencies name <;> simp
    | some value =>
      cases b.currencies name with
      | none => simp
      | some more => simp [Int.add_comm]

-- The rewards that are paid out hold no other amounts.
structure Positive (reward : Reward) : Prop where
  items : ∀ item ∈ reward.items, 0 < item.itemNum
  soldiers : ∀ soldier ∈ reward.soldiers, 0 < soldier.num
  heros : ∀ hero ∈ reward.heros, 0 < hero.num
  guildGifts : ∀ gift ∈ reward.guildGifts, 0 < gift.giftNum

theorem Growth.ofKey_positive (g : Growth α) {list : List α} (positive : ∀ x ∈ list, 0 < (g.num x).1) (k : Nat) :
    ∀ x ∈ g.ofKey k list, 0 < (g.num x).1 := by
  intro x there
  exact positive x (List.mem_of_mem_filter there)

theorem uniform_positive (some : Positive a) (more : Positive b) (uniform : Uniform a b) :
    (∀ k, Growth.items.Alike (Growth.items.ofKey k a.items) (Growth.items.ofKey k b.items)) ∧
    (∀ k, Growth.soldiers.Alike (Growth.soldiers.ofKey k a.soldiers) (Growth.soldiers.ofKey k b.soldiers)) ∧
    (∀ k, Growth.heros.Alike (Growth.heros.ofKey k a.heros) (Growth.heros.ofKey k b.heros)) ∧
    ∀ k, Growth.guildGifts.Alike (Growth.guildGifts.ofKey k a.guildGifts) (Growth.guildGifts.ofKey k b.guildGifts) := by
  refine ⟨?_,?_,?_,?_⟩ <;> intro k <;> apply Growth.alike_of_match
  · exact Growth.items.ofKey_positive some.items k
  · exact Growth.items.ofKey_positive more.items k
  · exact uniform.items k
  · exact Growth.soldiers.ofKey_positive some.soldiers k
  · exact Growth.soldiers.ofKey_positive more.soldiers k
  · exact uniform.soldiers k
  · exact Growth.heros.ofKey_positive some.heros k
  · exact Growth.heros.ofKey_positive more.heros k
  · exact uniform.heros k
  · exact Growth.guildGifts.ofKey_positive some.guildGifts k
  · exact Growth.guildGifts.ofKey_positive more.guildGifts k
  · exact uniform.guildGifts k

theorem mergeReward_assoc (a b c : Reward) : Same (mergeReward (mergeReward a b) c) (mergeReward a (mergeReward b c)) := by
  refine ⟨?_,Growth.items.merge_assoc _ _ _,Growth.soldiers.merge_assoc _ _ _,Growth.heros.merge_assoc _ _ _,Growth.guildGifts.merge_assoc _ _ _⟩
  funext name
  unfold mergeReward
  dsimp only
  cases a.currencies name <;> cases b.currencies name <;> cases c.currencies name <;> simp [Int.add_assoc]

theorem mergeTables_second (uniform : Uniform a b) : (mergeTables a b).2 = b := by
  have items : (mergeList Item.itemId growItem a.items b.items).2 = b.items := Growth.items.second_kept uniform.items
  have soldiers : (mergeList RewardSoldier.id growSoldier a.soldiers b.soldiers).2 = b.soldiers := Growth.soldiers.second_kept uniform.soldiers
  have heros : (mergeList Hero.heroId growHero a.heros b.heros).2 = b.heros := Growth.heros.second_kept uniform.heros
  have gifts : (mergeList Gift.giftType growGift a.guildGifts b.guildGifts).2 = b.guildGifts := Growth.guildGifts.second_kept uniform.guildGifts
  unfold mergeTables
  dsimp only
  rw [items,soldiers,heros,gifts]

-- Totals and grouping are always right. The order of two rewards shows, and the second one
-- changes, only where entries of one key differ.
theorem merges_right (a b c : Reward) : Merges a b c ↔ Uniform a b := by
  constructor
  · intro merges
    have comm := merges.comm
    rw [mergeTables_first,mergeTables_first] at comm
    exact (mergeReward_comm a b).mp comm
  · intro uniform
    constructor
    · intro kind
      rw [mergeTables_first,total_mergeReward]
    · rw [mergeTables_first,mergeTables_first]
      exact (mergeReward_comm a b).mpr uniform
    · simp only [mergeTables_first]
      exact mergeReward_assoc a b c
    · intro kind
      rw [mergeTables_second uniform]

-- The same hero twice: the first of them becomes the entry of the empty table and grows by the
-- second, so that the two are three.
def twins : Reward := {heros:=[⟨1,1,1⟩,⟨1,1,1⟩]}

theorem twins_grow : ¬∀ a b c : Reward, Merges a b c := by
  intro merges
  have three : (mergeTables {} twins).2.total (.hero 1) = 3 := by decide
  have two : twins.total (.hero 1) = 2 := by decide
  have held := (merges {} twins {}).second (.hero 1)
  rw [three,two] at held
  cases held

end OriginGame.ItemPackages
