import OriginGame.AoiMap

namespace OriginGame.AoiMap
open Links

variable {α σ : Type} {m after : Map α} {chain : Nat → List Nat} {slot : Slot α} {id i j s x : Nat} {obj o : α}

section Views

-- The id in a slot that is not free.
def Slot.used (s : Slot α) : Option Nat := if s.id = invalidId then none else some s.id

def Map.idAt (m : Map α) (i : Nat) : Option Nat := m.slot[i]?.bind Slot.used

def Map.objAt (m : Map α) (i : Nat) : Option α := m.slot[i]?.bind Slot.obj

def Map.next (m : Map α) (i : Nat) : Option Nat := m.slot[i]?.bind Slot.next

def Present (m : Map α) (id : Nat) : Prop := ∃ i, m.idAt i = some id

def Holds (m : Map α) (id : Nat) (obj : α) : Prop := ∃ i, m.idAt i = some id ∧ m.objAt i = some obj

def Map.vacant (m : Map α) : Nat := m.slot.countP (fun s => s.id = invalidId)

theorem small_valid (small : id < 2^32) : id ≠ invalidId := by
  unfold invalidId
  omega

theorem used_some (small : id < 2^32) : (⟨id,o,n⟩ : Slot α).used = some id := if_neg (small_valid small)

theorem used_iff (small : id < 2^32) : slot.used = some id ↔ slot.id = id := by
  unfold Slot.used
  split
  · rename_i free
    rw [free]
    exact ⟨fun same => (by cases same),fun same => absurd same.symm (small_valid small)⟩
  · exact Option.some_inj

theorem idAt_inside (used : m.idAt i = some id) : i < m.size := by
  obtain ⟨slot,there,_⟩ := Option.bind_eq_some_iff.mp used
  exact (List.getElem?_eq_some_iff.mp there).1

theorem slot_there (inside : i < m.size) : ∃ slot, m.slot[i]? = some slot := ⟨_,List.getElem?_eq_getElem inside⟩

theorem idAt_slot (there : m.slot[i]? = some slot) : m.idAt i = slot.used := by
  rw [Map.idAt,there]
  rfl

theorem objAt_slot (there : m.slot[i]? = some slot) : m.objAt i = slot.obj := by
  rw [Map.objAt,there]
  rfl

theorem next_slot (there : m.slot[i]? = some slot) : m.next i = slot.next := by
  rw [Map.next,there]
  rfl

theorem mainposition_inside (some : 0 < m.size) (id : Nat) : mainposition m id < m.size :=
  Nat.lt_of_le_of_lt Nat.and_le_right (Nat.sub_one_lt_of_lt some)

theorem put_slot (inside : s < m.size) (slot : Slot α) (j : Nat) :
    (m.put s slot).slot[j]? = if j = s then some slot else m.slot[j]? := by
  unfold Map.put
  dsimp only
  split
  · rename_i same
    rw [same,List.getElem?_set_self inside]
  · rename_i other
    rw [List.getElem?_set_ne (Ne.symm other)]

theorem put_idAt (inside : s < m.size) (slot : Slot α) (j : Nat) :
    (m.put s slot).idAt j = if j = s then slot.used else m.idAt j := by
  unfold Map.idAt
  rw [put_slot inside]
  split <;> rfl

theorem put_objAt (inside : s < m.size) (slot : Slot α) (j : Nat) :
    (m.put s slot).objAt j = if j = s then slot.obj else m.objAt j := by
  unfold Map.objAt
  rw [put_slot inside]
  split <;> rfl

theorem put_next (inside : s < m.size) (slot : Slot α) (j : Nat) :
    (m.put s slot).next j = if j = s then slot.next else m.next j := by
  unfold Map.next
  rw [put_slot inside]
  split <;> rfl

@[simp] theorem put_size (m : Map α) (s : Nat) (slot : Slot α) : (m.put s slot).size = m.size := List.length_set

@[simp] theorem put_mainposition (m : Map α) (s : Nat) (slot : Slot α) (id : Nat) :
    mainposition (m.put s slot) id = mainposition m id := by
  unfold mainposition
  rw [put_size]

-- A slot that stays free, or stays taken, is no other number of free slots.
theorem put_vacant (there : m.slot[s]? = some slot) (other : Slot α) :
    (m.put s other).vacant+(if slot.id = invalidId then 1 else 0) = m.vacant+(if other.id = invalidId then 1 else 0) := by
  obtain ⟨inside,rfl⟩ := List.getElem?_eq_some_iff.mp there
  have positive : m.slot[s].id = invalidId → 0 < m.vacant := fun free =>
    List.countP_pos_iff.mpr ⟨_,List.getElem_mem inside,decide_eq_true free⟩
  unfold Map.vacant at positive ⊢
  unfold Map.put
  rw [List.countP_set inside]
  simp only [decide_eq_true_eq]
  split
  · rename_i free
    have some := positive free
    omega
  · omega

end Views

-- Behind every main position the list of its slots.
structure Chained (m : Map α) (chain : Nat → List Nat) : Prop where
  sized : 0 < m.size
  path : ∀ h, chain h = [] ∨ Path m.next (some h) (chain h) none
  mem : ∀ h i, i ∈ chain h ↔ ∃ id, m.idAt i = some id ∧ mainposition m id = h
  small : ∀ {i id}, m.idAt i = some id → id < 2^32
  once : ∀ {i j id}, m.idAt i = some id → m.idAt j = some id → i = j
  free : ∀ {i}, m.idAt i = none → m.next i = none ∧ m.objAt i = none
  scanned : m.lastfree ≤ m.size ∧ ∀ i, m.lastfree ≤ i → i < m.size → m.idAt i ≠ none

def Sound (m : Map α) : Prop := ∃ chain, Chained m chain

namespace Chained

theorem head (chained : Chained m chain) (mem : i ∈ chain h) : ∃ rest, chain h = h::rest ∧ Path m.next (some h) (h::rest) none := by
  rcases chained.path h with none | path
  · rw [none] at mem
    cases mem
  · obtain ⟨rest,split⟩ := path.head
    rw [split] at path
    exact ⟨rest,split,path⟩

-- Only a slot in its own main position starts a chain.
theorem nil (chained : Chained m chain) (other : ∀ x, m.idAt s = some x → mainposition m x ≠ s) : chain s = [] := by
  refine List.eq_nil_iff_forall_not_mem.mpr ?_
  intro i mem
  obtain ⟨rest,split,_⟩ := chained.head mem
  have first : s ∈ chain s := by
    rw [split]
    exact List.mem_cons_self ..
  obtain ⟨x,used,home⟩ := (chained.mem s s).mp first
  exact other x used home

theorem nodup (chained : Chained m chain) (h : Nat) : (chain h).Nodup := by
  rcases chained.path h with none | path
  · rw [none]
    exact List.nodup_nil
  · exact path.nodup

theorem inside (chained : Chained m chain) (mem : i ∈ chain h) : i < m.size := by
  obtain ⟨_,used,_⟩ := (chained.mem h i).mp mem
  exact idAt_inside used

theorem unlinked (chained : Chained m chain) (i : Nat) (free : m.idAt i = none) : m.next i = none := (chained.free free).1

theorem mine (chained : Chained m chain) (used : m.idAt i = some id) : i ∈ chain (mainposition m id) :=
  (chained.mem _ i).mpr ⟨id,used,rfl⟩

theorem one (chained : Chained m chain) {h k : Nat} (first : i ∈ chain h) (second : i ∈ chain k) : h = k := by
  obtain ⟨x,used,home⟩ := (chained.mem h i).mp first
  obtain ⟨y,again,home'⟩ := (chained.mem k i).mp second
  rw [used] at again
  cases again
  exact home.symm.trans home'

-- What a main position holds is at home there when it has a chain.
theorem starts (chained : Chained m chain) (some : chain s ≠ []) (used : m.idAt s = .some x) : mainposition m x = s := by
  obtain ⟨i,mem⟩ := List.exists_mem_of_ne_nil _ some
  obtain ⟨rest,split,_⟩ := chained.head mem
  have first : s ∈ chain s := by
    rw [split]
    exact List.mem_cons_self ..
  exact chained.one (chained.mine used) first

-- Out of one slot is out of one id.
theorem elsewhere (chained : Chained m chain) (used : m.idAt s = some x) {q : Nat → Prop} (own : ∀ i, q i → m.idAt i = some j) :
    (∃ i, i ≠ s ∧ q i) ↔ j ≠ x ∧ ∃ i, q i := by
  constructor
  · rintro ⟨i,other,mem⟩
    refine ⟨?_,i,mem⟩
    rintro rfl
    exact other (chained.once (own i mem) used)
  · rintro ⟨other,i,mem⟩
    refine ⟨i,?_,mem⟩
    rintro rfl
    have same := own i mem
    rw [used] at same
    exact other (Option.some.inj same).symm

end Chained

theorem length_le_size {list : List Nat} (distinct : list.Nodup) (inside : ∀ i ∈ list, i < m.size) : list.length ≤ m.size := by
  have sub : list ⊆ List.range m.size := fun i mem => List.mem_range.mpr (inside i mem)
  have shorter := (List.subperm_of_subset distinct sub).length_le
  rwa [List.length_range] at shorter

section Follow
variable {wanted : Slot α → Bool} {list : List Nat} {fuel : Nat}

theorem follow_path (wanted : Slot α → Bool) (path : Path m.next (some s) list none) (inside : ∀ i ∈ list, i < m.size) (enough : list.length ≤ fuel) :
    follow m wanted fuel s = some (list.find? (fun i => m.slot[i]?.any wanted)) := by
  induction list generalizing s fuel with
  | nil => cases path
  | cons i rest ih =>
    obtain ⟨first,path⟩ := path
    cases first
    obtain ⟨inside,later⟩ := List.forall_mem_cons.mp inside
    obtain ⟨slot,there⟩ := slot_there inside
    rw [next_slot there] at path
    cases fuel with
    | zero => cases enough
    | succ fuel =>
      simp only [follow,there,Option.bind_eq_bind,Option.bind_some,List.find?_cons,Option.any_some]
      cases found : wanted slot with
      | true => rfl
      | false =>
        simp only [Bool.false_eq_true,if_false]
        cases next : slot.next with
        | none =>
          rw [next] at path
          cases rest with
          | nil => rfl
          | cons j more => cases path.1
        | some j =>
          rw [next] at path
          exact ih path later (Nat.le_of_succ_le_succ enough)

-- From any slot on, the rest of some chain; all of the slot's own chain is on it.
theorem Chained.tail (chained : Chained m chain) (inside : s < m.size) :
    ∃ list, Path m.next (some s) list none ∧ (∀ i ∈ list, i < m.size) ∧
      ∀ {i id}, m.idAt i = some id → mainposition m id = s → i ∈ list := by
  by_cases home : ∃ x, m.idAt s = some x ∧ mainposition m x = s
  · obtain ⟨x,used,home⟩ := home
    have mine := chained.mine used
    rw [home] at mine
    obtain ⟨rest,split,path⟩ := chained.head mine
    rw [←split] at path
    refine ⟨chain s,path,fun i mem => chained.inside mem,?_⟩
    intro i id other same
    rw [←same]
    exact chained.mine other
  · have none := chained.nil (fun x used same => home ⟨x,used,same⟩)
    have nobody {i id} (used : m.idAt i = some id) (same : mainposition m id = s) : False := by
      have mem := chained.mine used
      rw [same,none] at mem
      cases mem
    cases used : m.idAt s with
    | none =>
      refine ⟨[s],⟨rfl,(chained.free used).1⟩,?_,fun used same => (nobody used same).elim⟩
      intro i mem
      rw [List.mem_singleton.mp mem]
      exact inside
    | some x =>
      obtain ⟨rest,split,path⟩ := chained.head (chained.mine used)
      rw [←split] at path
      obtain ⟨front,back,cut⟩ := List.append_of_mem (chained.mine used)
      rw [cut] at path
      refine ⟨s::back,path.rest,?_,fun used same => (nobody used same).elim⟩
      intro i mem
      apply chained.inside (h := mainposition m x)
      rw [cut]
      exact List.mem_append_right _ mem

-- Query and drop find the slot of an id.
theorem follow_id (chained : Chained m chain) (small : id < 2^32) (enough : m.size ≤ fuel) :
    ∃ found, follow m (fun slot => slot.id = id) fuel (mainposition m id) = some found ∧ ∀ i, found = some i ↔ m.idAt i = some id := by
  obtain ⟨list,path,inside,mine⟩ := chained.tail (mainposition_inside chained.sized id)
  have short := (length_le_size path.nodup inside).trans enough
  refine ⟨_,follow_path _ path inside short,?_⟩
  have wanted (i) : m.slot[i]?.any (fun slot => slot.id = id) = true ↔ m.idAt i = some id := by
    cases there : m.slot[i]? with
    | none =>
      rw [Map.idAt,there]
      exact ⟨fun h => (by cases h),fun h => (by cases h)⟩
    | some slot =>
      rw [idAt_slot there,used_iff small]
      exact decide_eq_true_iff
  intro i
  constructor
  · intro found
    have hit := List.find?_some found
    exact (wanted i).mp hit
  · intro used
    have mem := mine used rfl
    cases found : list.find? (fun i => m.slot[i]?.any (fun slot => slot.id = id)) with
    | none => exact absurd ((wanted i).mpr used) (List.find?_eq_none.mp found i mem)
    | some j =>
      have hit := List.find?_some found
      rw [chained.once ((wanted j).mp hit) used]

-- A slot away from its main position has one before it.
theorem previous_found (chained : Chained m chain) (used : m.idAt s = some x) (away : mainposition m x ≠ s) (enough : m.size ≤ fuel) :
    ∃ last front back, previous m fuel s (mainposition m x) = some last ∧ chain (mainposition m x) = front++last::s::back := by
  have mine := chained.mine used
  obtain ⟨rest,split,path⟩ := chained.head mine
  rw [←split] at path
  have inside : ∀ i ∈ chain (mainposition m x), i < m.size := fun i mem => chained.inside mem
  have short := (length_le_size path.nodup inside).trans enough
  have wanted (i) : m.slot[i]?.any (fun last => last.next = some s) = true ↔ m.next i = some s := by
    cases there : m.slot[i]? with
    | none =>
      rw [Map.next,there]
      exact ⟨fun h => (by cases h),fun h => (by cases h)⟩
    | some slot =>
      rw [next_slot there]
      exact decide_eq_true_iff
  have followed := follow_path (fun last => last.next = some s) path inside short
  cases found : (chain (mainposition m x)).find? (fun i => m.slot[i]?.any (fun last => last.next = some s)) with
  | none =>
    exfalso
    have none := List.find?_eq_none.mp found
    obtain ⟨front,back,cut⟩ := List.append_of_mem mine
    rcases front.eq_nil_or_concat with rfl | ⟨before,last,rfl⟩
    · rw [split] at cut
      cases cut
      exact away rfl
    · rw [List.concat_eq_append] at cut
      rw [cut] at path
      obtain ⟨_,first,second⟩ := path_append.mp path
      obtain ⟨_,_,only⟩ := path_append.mp first
      have next : m.next last = some s := only.2.trans second.1
      refine none last ?_ ((wanted last).mpr next)
      rw [cut]
      simp
  | some last =>
    have hit := List.find?_some found
    have next : m.next last = some s := (wanted last).mp hit
    obtain ⟨front,back,cut⟩ := List.append_of_mem (List.mem_of_find?_eq_some found)
    rw [cut] at path
    obtain ⟨_,after⟩ := path.rest
    rw [next] at after
    obtain ⟨more,same⟩ := after.head
    refine ⟨last,front,more,?_,by rw [cut,same]⟩
    rw [previous,followed,found]
    rfl

end Follow

section TakeFree

-- The scan stops at the first free slot from above.
theorem takeFree_stops (m : Map α) (lastfree : Nat) (inside : lastfree ≤ m.size) :
    (∃ f, takeFree m.slot lastfree = some (f,some f) ∧ f < lastfree ∧ m.idAt f = none ∧
      ∀ i, f < i → i < lastfree → m.idAt i ≠ none) ∨
    takeFree m.slot lastfree = some (0,none) ∧ ∀ i < lastfree, m.idAt i ≠ none := by
  induction lastfree with
  | zero => exact .inr ⟨rfl,fun i below => absurd below (Nat.not_lt_zero i)⟩
  | succ lastfree ih =>
    obtain ⟨temp,there⟩ := slot_there inside
    have used := idAt_slot there
    simp only [takeFree,there,Option.bind_eq_bind,Option.bind_some]
    split
    · rename_i free
      left
      refine ⟨lastfree,rfl,Nat.lt_succ_self _,used.trans (if_pos free),?_⟩
      intro i above below
      omega
    · rename_i taken
      have this : m.idAt lastfree ≠ none := by
        rw [used,Slot.used,if_neg taken]
        exact Option.some_ne_none _
      have more {i} (below : i < lastfree+1) (fewer : i < lastfree → m.idAt i ≠ none) : m.idAt i ≠ none := by
        rcases Nat.lt_succ_iff_lt_or_eq.mp below with before | rfl
        · exact fewer before
        · exact this
      rcases ih (Nat.le_of_succ_le inside) with ⟨f,found,below,free,above⟩ | ⟨found,all⟩
      · exact .inl ⟨f,found,Nat.lt_succ_of_lt below,free,fun i first second => more second (above i first)⟩
      · exact .inr ⟨found,fun i below => more below (all i)⟩

theorem vacant_zero (all : ∀ i < m.size, m.idAt i ≠ none) : m.vacant = 0 := by
  apply List.countP_eq_zero.mpr
  intro slot mem free
  obtain ⟨i,inside,rfl⟩ := List.mem_iff_getElem.mp mem
  apply all i inside
  rw [idAt_slot (List.getElem?_eq_getElem inside)]
  exact if_pos (of_decide_eq_true free)

theorem vacant_none (none : m.vacant = 0) (inside : i < m.size) : m.idAt i ≠ Option.none := by
  obtain ⟨slot,there⟩ := slot_there inside
  rw [idAt_slot there,Slot.used]
  split
  · rename_i free
    have taken := List.countP_eq_zero.mp none slot (List.mem_of_getElem? there)
    exact absurd (decide_eq_true free) taken
  · exact Option.some_ne_none _

end TakeFree

section Takes
variable {later : Nat → List Nat}

-- One slot has an id and an object put in; the others keep theirs.
structure Takes (m after : Map α) (s id : Nat) (obj : α) : Prop where
  size : after.size = m.size
  idAt : ∀ i, after.idAt i = if i = s then some id else m.idAt i
  objAt : ∀ i, after.objAt i = if i = s then some obj else m.objAt i
  next : ∀ i, i ≠ s → m.idAt i = none → after.next i = none

theorem Takes.mainposition (takes : Takes m after s id obj) (x : Nat) : mainposition after x = mainposition m x := by
  unfold AoiMap.mainposition
  rw [takes.size]

theorem Takes.chained (takes : Takes m after s id obj) (chained : Chained m chain) (small : id < 2^32) (absent : ¬ Present m id)
    (path : ∀ h, later h = [] ∨ Path after.next (some h) (later h) none)
    (mem : ∀ h i, i ∈ later h ↔ i = s ∧ AoiMap.mainposition m id = h ∨ i ≠ s ∧ i ∈ chain h)
    (scanned : after.lastfree ≤ m.size ∧ ∀ i, after.lastfree ≤ i → i < m.size → i ≠ s → m.idAt i ≠ none) : Chained after later := by
  have other {i x} (away : i ≠ s) (used : after.idAt i = some x) : m.idAt i = some x := (if_neg away).symm.trans ((takes.idAt i).symm.trans used)
  have same {x} (used : after.idAt s = some x) : x = id := by
    rw [takes.idAt,if_pos rfl] at used
    exact (Option.some.inj used).symm
  refine ⟨by rw [takes.size]; exact chained.sized,path,?_,?_,?_,?_,by rw [takes.size]; exact scanned.1,?_⟩
  · intro h i
    simp only [mem,takes.mainposition,takes.idAt]
    by_cases here : i = s
    · simp [here]
    · simp only [here,false_and,false_or,not_false_eq_true,true_and,if_false,ne_eq]
      exact chained.mem h i
  · intro i x used
    by_cases here : i = s
    · subst here
      rw [same used]
      exact small
    · exact chained.small (other here used)
  · intro i j x first second
    by_cases one : i = s <;> by_cases two : j = s
    · rw [one,two]
    · subst one
      exact absurd ⟨j,(same first) ▸ other two second⟩ absent
    · subst two
      exact absurd ⟨i,(same second) ▸ other one first⟩ absent
    · exact chained.once (other one first) (other two second)
  · intro i
    rw [takes.idAt,takes.objAt]
    split
    · intro used
      cases used
    · rename_i away
      intro free
      exact ⟨takes.next i away free,(chained.free free).2⟩
  · intro i above below
    rw [takes.idAt]
    split
    · exact Option.some_ne_none _
    · rename_i away
      rw [takes.size] at below
      exact scanned.2 i above below away

-- What the tables hold apart from the slot.
theorem Takes.holds (takes : Takes m after s id obj) (j : Nat) (o : α) :
    Holds after j o ↔ j = id ∧ o = obj ∨ ∃ i, i ≠ s ∧ m.idAt i = some j ∧ m.objAt i = some o := by
  unfold Holds
  simp only [takes.idAt,takes.objAt]
  constructor
  · rintro ⟨i,used,there⟩
    split at used
    · rename_i here
      rw [if_pos here] at there
      cases used
      cases there
      exact .inl ⟨rfl,rfl⟩
    · rename_i away
      rw [if_neg away] at there
      exact .inr ⟨i,away,used,there⟩
  · rintro (⟨rfl,rfl⟩ | ⟨i,away,used,there⟩)
    · exact ⟨s,if_pos rfl,if_pos rfl⟩
    · exact ⟨i,(if_neg away).trans used,(if_neg away).trans there⟩

theorem Takes.present (takes : Takes m after s id obj) (j : Nat) :
    Present after j ↔ j = id ∨ ∃ i, i ≠ s ∧ m.idAt i = some j := by
  unfold Present
  simp only [takes.idAt]
  constructor
  · rintro ⟨i,used⟩
    split at used
    · cases used
      exact .inl rfl
    · rename_i away
      exact .inr ⟨i,away,used⟩
  · rintro (rfl | ⟨i,away,used⟩)
    · exact ⟨s,if_pos rfl⟩
    · exact ⟨i,(if_neg away).trans used⟩

-- A free main position.
theorem fill_takes (obj : α) (inside : s < m.size) (small : id < 2^32) (free : ∀ i, m.idAt i = none → m.next i = none) :
    Takes m (m.put s ⟨id,some obj,none⟩) s id obj where
  size := put_size ..
  idAt i := by rw [put_idAt inside,used_some small]
  objAt i := put_objAt inside ..
  next i away used := by rw [put_next inside,if_neg away]; exact free i used

theorem fill_chained (chained : Chained m chain) (inside : s < m.size) (free : m.idAt s = none) (home : mainposition m id = s)
    (small : id < 2^32) (absent : ¬ Present m id) : Sound (m.put s ⟨id,some obj,none⟩) := by
  have takes := fill_takes obj inside small chained.unlinked
  have next := put_next inside (⟨id,some obj,none⟩ : Slot α)
  have none := chained.nil (s:=s) (fun x used => by rw [free] at used; cases used)
  have away {h i} (mem : i ∈ chain h) : i ≠ s := by
    rintro rfl
    obtain ⟨x,used,_⟩ := (chained.mem h i).mp mem
    rw [free] at used
    cases used
  refine ⟨Function.update chain s [s],takes.chained chained small absent ?_ ?_ ⟨chained.scanned.1,fun i above below _ => chained.scanned.2 i above below⟩⟩
  · intro h
    by_cases same : h = s
    · subst same
      rw [Function.update_self]
      exact .inr ⟨rfl,(next h).trans (if_pos rfl)⟩
    · rw [Function.update_of_ne same]
      exact (chained.path h).imp_right (fun path => path.congr (fun i mem => (next i).trans (if_neg (away mem))))
  · intro h i
    by_cases same : h = s
    · subst same
      rw [Function.update_self,List.mem_singleton,none]
      simp [home]
    · rw [Function.update_of_ne same,home]
      simp only [Ne.symm same,and_false,false_or]
      exact ⟨fun mem => ⟨away mem,mem⟩,And.right⟩

-- A main position with its own chain: the new slot comes second.
theorem link_takes (obj : α) (there : m.slot[s]? = some slot) (used : m.idAt s = some x) (inside : f < m.size) (vacant : m.idAt f = none)
    (small : id < 2^32) (free : ∀ i, m.idAt i = none → m.next i = none) :
    Takes m ((({m with lastfree:=f} : Map α).put f ⟨id,some obj,slot.next⟩).put s {slot with next:=some f}) f id obj := by
  have place : f < ({m with lastfree:=f} : Map α).size := inside
  have home : s < (({m with lastfree:=f} : Map α).put f ⟨id,some obj,slot.next⟩).size := by
    rw [put_size]
    exact (List.getElem?_eq_some_iff.mp there).1
  have apart : s ≠ f := by
    rintro rfl
    rw [used] at vacant
    cases vacant
  refine ⟨by rw [put_size,put_size]; rfl,?_,?_,?_⟩
  · intro i
    rw [put_idAt home,put_idAt place,used_some small]
    by_cases first : i = s
    · subst first
      rw [if_pos rfl,if_neg apart]
      exact (idAt_slot there).symm
    · rw [if_neg first]
      rfl
  · intro i
    rw [put_objAt home,put_objAt place]
    by_cases first : i = s
    · subst first
      rw [if_pos rfl,if_neg apart]
      exact (objAt_slot there).symm
    · rw [if_neg first]
      rfl
  · intro i away none
    have second : i ≠ s := by
      rintro rfl
      rw [used] at none
      cases none
    rw [put_next home,put_next place,if_neg second,if_neg away]
    exact free i none

theorem link_chained (chained : Chained m chain) (there : m.slot[s]? = some slot) (used : m.idAt s = some x)
    (own : mainposition m x = s) (inside : f < m.size) (vacant : m.idAt f = none) (above : ∀ i, f < i → i < m.size → m.idAt i ≠ none)
    (home : mainposition m id = s) (small : id < 2^32) (absent : ¬ Present m id) :
    Sound ((({m with lastfree:=f} : Map α).put f ⟨id,some obj,slot.next⟩).put s {slot with next:=some f}) := by
  have takes := link_takes obj there used inside vacant small chained.unlinked
  have place : f < ({m with lastfree:=f} : Map α).size := inside
  have here : s < (({m with lastfree:=f} : Map α).put f ⟨id,some obj,slot.next⟩).size := by
    rw [put_size]
    exact (List.getElem?_eq_some_iff.mp there).1
  have next (i) : ((({m with lastfree:=f} : Map α).put f ⟨id,some obj,slot.next⟩).put s {slot with next:=some f}).next i =
      if i = s then some f else if i = f then m.next s else m.next i := by
    rw [put_next here,put_next place,next_slot there]
    rfl
  have mine := chained.mine used
  rw [own] at mine
  obtain ⟨back,split,path⟩ := chained.head mine
  have distinct := chained.nodup s
  rw [split,List.nodup_cons] at distinct
  have notFree {h i} (mem : i ∈ chain h) : i ≠ f := by
    rintro rfl
    obtain ⟨y,taken,_⟩ := (chained.mem h i).mp mem
    rw [vacant] at taken
    cases taken
  have notHome {h i} (other : h ≠ s) (mem : i ∈ chain h) : i ≠ s := by
    rintro rfl
    exact other (chained.one mem mine)
  refine ⟨Function.update chain s (s::f::back),takes.chained chained small absent ?_ ?_ ⟨Nat.le_of_lt inside,?_⟩⟩
  · intro h
    by_cases same : h = s
    · subst same
      have apart : f ≠ h := fun same => notFree mine same.symm
      rw [Function.update_self]
      refine .inr ⟨rfl,?_,?_⟩
      · rw [next,if_pos rfl]
      · rw [next,if_neg apart,if_pos rfl]
        refine path.2.congr (fun i mem => ?_)
        have mem' : i ∈ chain h := by
          rw [split]
          exact List.mem_cons_of_mem _ mem
        rw [next,if_neg (fun same : i = h => distinct.1 (same ▸ mem)),if_neg (notFree mem')]
    · rw [Function.update_of_ne same]
      refine (chained.path h).imp_right (fun path => path.congr (fun i mem => ?_))
      rw [next,if_neg (notHome same mem),if_neg (notFree mem)]
  · intro h i
    by_cases same : h = s
    · subst same
      rw [Function.update_self,split]
      have apart : h ≠ f := notFree mine
      have others : i ∈ back → i ≠ f := fun mem => notFree (h:=h) (by rw [split]; exact List.mem_cons_of_mem _ mem)
      simp only [List.mem_cons]
      grind
    · rw [Function.update_of_ne same,home]
      simp only [Ne.symm same,and_false,false_or]
      exact ⟨fun mem => ⟨notFree mem,mem⟩,And.right⟩
  · intro i from_ below away
    exact above i (Nat.lt_of_le_of_ne from_ (Ne.symm away)) below

-- A slot away from its main position gives way.
theorem move_takes (n : Option Nat) (obj : α) (there : m.slot[l]? = some slot) (inside : s < m.size) (apart : l ≠ s) (taken : m.idAt l = some y)
    (small : id < 2^32) (free : ∀ i, m.idAt i = none → m.next i = none) :
    Takes m ((m.put l {slot with next:=n}).put s ⟨id,some obj,none⟩) s id obj := by
  have before : l < m.size := (List.getElem?_eq_some_iff.mp there).1
  have here : s < (m.put l {slot with next:=n}).size := by
    rw [put_size]
    exact inside
  refine ⟨by rw [put_size,put_size],?_,?_,?_⟩
  · intro i
    rw [put_idAt here,put_idAt before,used_some small]
    by_cases last : i = l
    · subst last
      rw [if_pos rfl,idAt_slot there]
      rfl
    · rw [if_neg last]
  · intro i
    rw [put_objAt here,put_objAt before]
    by_cases last : i = l
    · subst last
      rw [if_pos rfl,objAt_slot there]
    · rw [if_neg last]
  · intro i away none
    have other : i ≠ l := by
      rintro rfl
      rw [taken] at none
      cases none
    rw [put_next here,put_next before,if_neg away,if_neg other]
    exact free i none

theorem move_chained (obj : α) (chained : Chained m chain) (used : m.idAt s = some x) (away : mainposition m x ≠ s)
    (split : chain (mainposition m x) = front++l::s::back) (there : m.slot[l]? = some slot)
    (home : mainposition m id = s) (small : id < 2^32) (absent : ¬ Present m id) :
    ∃ later, Chained ((m.put l {slot with next:=m.next s}).put s ⟨id,some obj,none⟩) later ∧ later (mainposition m x) ≠ [] := by
  have inside := idAt_inside used
  have distinct := chained.nodup (mainposition m x)
  rw [split] at distinct
  have apart : l ≠ s := by grind
  have mem : l ∈ chain (mainposition m x) := by
    rw [split]
    simp
  obtain ⟨y,taken,_⟩ := (chained.mem _ l).mp mem
  have takes := move_takes (m.next s) obj there inside apart taken small chained.unlinked
  have before : l < m.size := (List.getElem?_eq_some_iff.mp there).1
  have next (i) : ((m.put l {slot with next:=m.next s}).put s ⟨id,some obj,none⟩).next i =
      if i = s then none else if i = l then m.next s else m.next i := by
    rw [put_next (by rw [put_size]; exact inside),put_next before]
  have none := chained.nil (s:=s) (fun z other same => by
    rw [used] at other
    cases other
    exact away same)
  obtain ⟨rest,start,path⟩ := chained.head mem
  rw [←start,split] at path
  have only {h i} (other : h ≠ mainposition m x) (here : i ∈ chain h) : i ≠ s ∧ i ≠ l := by
    refine ⟨?_,?_⟩
    · rintro rfl
      exact other (chained.one here (chained.mine used))
    · rintro rfl
      exact other (chained.one here mem)
  refine ⟨Function.update (Function.update chain (mainposition m x) (front++l::back)) s [s],
    takes.chained chained small absent ?_ ?_ ⟨chained.scanned.1,fun i above below _ => chained.scanned.2 i above below⟩,?_⟩
  · intro h
    by_cases same : h = s
    · subst same
      rw [Function.update_self]
      exact .inr ⟨rfl,(next h).trans (if_pos rfl)⟩
    · rw [Function.update_of_ne same]
      by_cases chainOf : h = mainposition m x
      · subst chainOf
        rw [Function.update_self]
        right
        obtain ⟨middle,first,same',last,second⟩ := path_append.mp path
        subst same'
        refine path_append.mpr ⟨some l,first.congr (fun i mem => ?_),rfl,?_⟩
        · have notLast : i ≠ s ∧ i ≠ l := by grind
          rw [next,if_neg notLast.1,if_neg notLast.2]
        · rw [next,if_neg apart,if_pos rfl]
          refine second.congr (fun i mem => ?_)
          have notFirst : i ≠ s ∧ i ≠ l := by grind
          rw [next,if_neg notFirst.1,if_neg notFirst.2]
      · rw [Function.update_of_ne chainOf]
        refine (chained.path h).imp_right (fun path => path.congr (fun i mem => ?_))
        rw [next,if_neg (only chainOf mem).1,if_neg (only chainOf mem).2]
  · intro h i
    by_cases same : h = s
    · subst same
      rw [Function.update_self,List.mem_singleton,none]
      simp [home]
    · rw [Function.update_of_ne same,home]
      simp only [Ne.symm same,and_false,false_or]
      by_cases chainOf : h = mainposition m x
      · subst chainOf
        rw [Function.update_self,split]
        grind
      · rw [Function.update_of_ne chainOf]
        exact ⟨fun mem => ⟨(only chainOf mem).1,mem⟩,And.right⟩
  · rw [Function.update_of_ne away,Function.update_self]
    simp

end Takes

end OriginGame.AoiMap
