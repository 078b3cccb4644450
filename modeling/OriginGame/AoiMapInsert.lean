import OriginGame.AoiMapChains

namespace OriginGame.AoiMap

variable {α σ : Type} {m moved after : Map α} {chain : Nat → List Nat} {slot lastSlot : Slot α} {fuel id i j s x n : Nat} {obj o : α}

structure Inserted (m : Map α) (id : Nat) (obj : α) (after : Map α) : Prop where
  sound : Sound after
  holds : ∀ j o, Holds after j o ↔ j = id ∧ o = obj ∨ Holds m j o
  present : ∀ j, Present after j → j = id ∨ Present m j

-- The main position is free, or in the hands of its own chain.
def AtHome (m : Map α) (id : Nat) : Prop := ∀ x, m.idAt (mainposition m id) = some x → mainposition m x = mainposition m id

section Branches

theorem mapInsert_free (there : m.slot[mainposition m id]? = some slot) (free : slot.id = invalidId) :
    mapInsert (fuel+1) m id obj = some (m.put (mainposition m id) {slot with id:=id, obj:=some obj}) := by
  simp only [mapInsert,there,Option.bind_eq_bind,Option.bind_some]
  rw [if_pos free]

theorem mapInsert_moves (obj : α) (there : m.slot[mainposition m id]? = some slot) (used : slot.id ≠ invalidId)
    (away : mainposition m slot.id ≠ mainposition m id)
    (before : previous m fuel (mainposition m id) (mainposition m slot.id) = some last) (lastThere : m.slot[last]? = some lastSlot) :
    mapInsert (fuel+1) m id obj =
      slot.obj.elim (some ((m.put last {lastSlot with next:=slot.next}).put (mainposition m id) ⟨id,some obj,none⟩))
        (mapInsert fuel ((m.put last {lastSlot with next:=slot.next}).put (mainposition m id) ⟨id,some obj,none⟩) (slot.id%2^32)) := by
  simp only [mapInsert,there,Option.bind_eq_bind,Option.bind_some]
  rw [if_neg used,if_pos away,before,Option.bind_some,lastThere,Option.bind_some]
  cases slot.obj <;> rfl

theorem mapInsert_links (there : m.slot[mainposition m id]? = some slot) (used : slot.id ≠ invalidId)
    (own : mainposition m slot.id = mainposition m id) (found : takeFree m.slot m.lastfree = some (f,some f)) :
    mapInsert (fuel+1) m id obj =
      some ((({m with lastfree:=f} : Map α).put f ⟨id,some obj,slot.next⟩).put (mainposition m id) {slot with next:=some f}) := by
  simp only [mapInsert,there,Option.bind_eq_bind,Option.bind_some]
  rw [if_neg used,if_neg (not_not_intro own),found]
  rfl

theorem mapInsert_full (there : m.slot[mainposition m id]? = some slot) (used : slot.id ≠ invalidId)
    (own : mainposition m slot.id = mainposition m id) (found : takeFree m.slot m.lastfree = some (0,none)) :
    mapInsert (fuel+1) m id obj = (rehash fuel {m with lastfree:=0}).bind (fun m => mapInsert fuel m id obj) := by
  simp only [mapInsert,there,Option.bind_eq_bind,Option.bind_some]
  rw [if_neg used,if_neg (not_not_intro own),found]
  rfl

end Branches

section Vacant

theorem free_slot (there : m.slot[i]? = some slot) (vacant : m.idAt i = none) : slot.id = invalidId := by
  by_contra busy
  rw [idAt_slot there,Slot.used,if_neg busy] at vacant
  cases vacant

theorem link_vacant (there : m.slot[s]? = some slot) (used : slot.id ≠ invalidId) (inside : f < m.size) (vacant : m.idAt f = none)
    (small : id < 2^32) :
    ((({m with lastfree:=f} : Map α).put f ⟨id,some obj,slot.next⟩).put s {slot with next:=some f}).vacant+1 = m.vacant := by
  obtain ⟨old,freeThere⟩ := slot_there inside
  have apart : s ≠ f := by
    rintro rfl
    rw [there] at freeThere
    cases freeThere
    exact used (free_slot there vacant)
  have first := put_vacant (m:={m with lastfree:=f}) freeThere (⟨id,some obj,slot.next⟩ : Slot α)
  have still : (({m with lastfree:=f} : Map α).put f ⟨id,some obj,slot.next⟩).slot[s]? = some slot := by
    rw [put_slot (m:={m with lastfree:=f}) inside,if_neg apart]
    exact there
  have second := put_vacant still ({slot with next:=some f} : Slot α)
  rw [if_pos (free_slot freeThere vacant),if_neg (small_valid small)] at first
  rw [if_neg used] at second
  change _ = m.vacant+0 at first
  omega

theorem move_vacant {n : Option Nat} (there : m.slot[s]? = some slot) (used : slot.id ≠ invalidId) (lastThere : m.slot[l]? = some lastSlot)
    (apart : l ≠ s) (small : id < 2^32) :
    ((m.put l {lastSlot with next:=n}).put s ⟨id,some obj,none⟩).vacant = m.vacant := by
  have first := put_vacant lastThere ({lastSlot with next:=n} : Slot α)
  dsimp only at first
  have still : (m.put l {lastSlot with next:=n}).slot[s]? = some slot := by
    rw [put_slot (List.getElem?_eq_some_iff.mp lastThere).1,if_neg apart.symm]
    exact there
  have second := put_vacant still (⟨id,some obj,none⟩ : Slot α)
  rw [if_neg used,if_neg (small_valid small)] at second
  omega

end Vacant

section Home

theorem holds_unique (chained : Chained m chain) (one : Holds m j o) (two : Holds m j obj) : o = obj := by
  obtain ⟨i,used,there⟩ := one
  obtain ⟨k,again,other⟩ := two
  rw [chained.once used again] at there
  exact Option.some.inj (there.symm.trans other)

-- A slot that was free.
theorem Takes.inserted (takes : Takes m after s id obj) (free : m.idAt s = none) (sound : Sound after) : Inserted m id obj after where
  sound := sound
  holds j o := by
    rw [takes.holds]
    refine or_congr_right ⟨fun ⟨i,_,used,there⟩ => ⟨i,used,there⟩,fun ⟨i,used,there⟩ => ⟨i,?_,used,there⟩⟩
    rintro rfl
    rw [free] at used
    cases used
  present j there := ((takes.present j).mp there).imp_right (fun ⟨i,_,used⟩ => ⟨i,used⟩)

theorem insert_home (obj : α) (chained : Chained m chain) (small : id < 2^32) (absent : ¬ Present m id) (home : AtHome m id) (fuel : Nat) :
    (∃ after, mapInsert (fuel+1) m id obj = some after ∧ Inserted m id obj after ∧ after.size = m.size ∧ after.vacant+1 = m.vacant) ∨
    m.vacant = 0 ∧ mapInsert (fuel+1) m id obj = (rehash fuel {m with lastfree:=0}).bind (fun m => mapInsert fuel m id obj) := by
  have inside := mainposition_inside chained.sized id
  obtain ⟨slot,there⟩ := slot_there inside
  by_cases taken : slot.id = invalidId
  · have vacant : m.idAt (mainposition m id) = none := (idAt_slot there).trans (if_pos taken)
    have shape : ({slot with id:=id, obj:=some obj} : Slot α) = ⟨id,some obj,none⟩ := by
      have next := (next_slot there).symm.trans (chained.unlinked _ vacant)
      rw [next]
    left
    refine ⟨_,mapInsert_free there taken,?_,put_size ..,?_⟩
    · rw [shape]
      exact (fill_takes obj inside small chained.unlinked).inserted vacant (fill_chained chained inside vacant rfl small absent)
    · have count := put_vacant there ({slot with id:=id, obj:=some obj} : Slot α)
      rw [if_pos taken,if_neg (small_valid small)] at count
      exact count
  · have used : m.idAt (mainposition m id) = some slot.id := (idAt_slot there).trans (if_neg taken)
    have own := home _ used
    rcases takeFree_stops m m.lastfree chained.scanned.1 with ⟨f,found,below,vacant,above⟩ | ⟨found,all⟩
    · left
      have place : f < m.size := Nat.lt_of_lt_of_le below chained.scanned.1
      have higher : ∀ i, f < i → i < m.size → m.idAt i ≠ none := by
        intro i first second
        rcases Nat.lt_or_ge i m.lastfree with before | after
        · exact above i first before
        · exact chained.scanned.2 i after second
      refine ⟨_,mapInsert_links there taken own found,?_,?_,?_⟩
      · exact (link_takes obj there used place vacant small chained.unlinked).inserted vacant
          (link_chained chained there used own place vacant higher rfl small absent)
      · rw [put_size,put_size]
        rfl
      · exact link_vacant there taken place vacant small
    · right
      refine ⟨?_,mapInsert_full there taken own found⟩
      apply vacant_zero
      intro i below
      rcases Nat.lt_or_ge i m.lastfree with before | after
      · exact all i before
      · exact chained.scanned.2 i after below

end Home

section Moves

-- The slot that gave way is out of the table, and its main position is at home.
structure Moved (m : Map α) (id : Nat) (obj : α) (x : Nat) (moved : Map α) : Prop where
  sound : Sound moved
  holds : ∀ j o, Holds moved j o ↔ j = id ∧ o = obj ∨ j ≠ x ∧ Holds m j o
  present : ∀ j, Present moved j ↔ j = id ∨ j ≠ x ∧ Present m j
  size : moved.size = m.size
  vacant : moved.vacant = m.vacant
  home : AtHome moved x
  small : x < 2^32
  there : Present m x

theorem insert_moves (obj : α) (chained : Chained m chain) (small : id < 2^32) (absent : ¬ Present m id) (away : ¬ AtHome m id)
    (enough : m.size ≤ fuel) :
    ∃ x moved, Moved m id obj x moved ∧ ((mapInsert (fuel+1) m id obj = some moved ∧ ∀ o, ¬ Holds m x o) ∨
      ∃ temp, Holds m x temp ∧ mapInsert (fuel+1) m id obj = mapInsert fuel moved x temp) := by
  unfold AtHome at away
  push Not at away
  obtain ⟨x,used,away⟩ := away
  have inside := idAt_inside used
  obtain ⟨slot,there⟩ := slot_there inside
  have smallX := chained.small used
  have same : slot.id = x := (used_iff smallX).mp ((idAt_slot there).symm.trans used)
  subst same
  have taken := small_valid smallX
  obtain ⟨last,front,back,before,split⟩ := previous_found chained used away enough
  have distinct := chained.nodup (mainposition m slot.id)
  rw [split] at distinct
  have apart : last ≠ mainposition m id := by grind
  have mem : last ∈ chain (mainposition m slot.id) := by
    rw [split]
    simp
  obtain ⟨lastSlot,lastThere⟩ := slot_there (chained.inside mem)
  obtain ⟨y,lastUsed,_⟩ := (chained.mem _ last).mp mem
  have next : m.next (mainposition m id) = slot.next := next_slot there
  have takes := move_takes slot.next obj lastThere inside apart lastUsed small chained.unlinked
  obtain ⟨later,sound,some⟩ := move_chained obj chained used away split lastThere rfl small absent
  rw [next] at sound
  have only {i} (again : m.idAt i = .some slot.id) : i = mainposition m id := chained.once again used
  refine ⟨slot.id,_,⟨⟨later,sound⟩,?_,?_,takes.size,move_vacant there taken lastThere apart small,?_,smallX,⟨_,used⟩⟩,?_⟩
  · intro j o
    rw [takes.holds]
    exact or_congr_right (chained.elsewhere used (fun i mem => mem.1))
  · intro j
    rw [takes.present]
    exact or_congr_right (chained.elsewhere used (fun i mem => mem))
  · intro z occupied
    rw [takes.mainposition slot.id] at occupied ⊢
    exact sound.starts some occupied
  · have equation := mapInsert_moves obj there taken away before lastThere
    rw [Nat.mod_eq_of_lt smallX] at equation
    cases held : slot.obj with
    | none =>
      rw [held] at equation
      refine .inl ⟨equation,?_⟩
      rintro o ⟨i,own,there'⟩
      rw [only own,objAt_slot there,held] at there'
      cases there'
    | some temp =>
      rw [held] at equation
      exact .inr ⟨temp,⟨_,used,(objAt_slot there).trans held⟩,equation⟩

-- Putting back what gave way.
theorem Moved.inserted (moves : Moved m id obj x moved) (chained : Chained m chain) (temp : Holds m x o) (back : Inserted moved x o after) :
    Inserted m id obj after where
  sound := back.sound
  holds j o' := by
    rw [back.holds,moves.holds]
    constructor
    · rintro (⟨rfl,rfl⟩ | new | ⟨_,old⟩)
      · exact .inr temp
      · exact .inl new
      · exact .inr old
    · rintro (new | old)
      · exact .inr (.inl new)
      · by_cases same : j = x
        · subst same
          exact .inl ⟨rfl,holds_unique chained old temp⟩
        · exact .inr (.inr ⟨same,old⟩)
  present j there := by
    rcases back.present j there with rfl | there
    · exact .inr moves.there
    · exact ((moves.present j).mp there).imp_right And.right

theorem Moved.absent (moves : Moved m id obj x moved) (absent : ¬ Present m id) : ¬ Present moved x := by
  intro again
  rcases (moves.present x).mp again with rfl | ⟨other,_⟩
  · exact absent moves.there
  · exact other rfl

-- Nothing to put back.
theorem Moved.dropped (moves : Moved m id obj x moved) (nothing : ∀ o, ¬ Holds m x o) : Inserted m id obj moved where
  sound := moves.sound
  holds j o := by
    rw [moves.holds]
    refine or_congr_right ⟨And.right,fun held => ⟨?_,held⟩⟩
    rintro rfl
    exact nothing o held
  present j there := ((moves.present j).mp there).imp_right And.right

end Moves

section Room

theorem insert_room (obj : α) (sound : Sound m) (small : id < 2^32) (absent : ¬ Present m id) (room : 0 < m.vacant) (enough : m.size < fuel) :
    ∃ after, mapInsert fuel m id obj = some after ∧ Inserted m id obj after ∧ after.size = m.size ∧ m.vacant ≤ after.vacant+1 := by
  obtain ⟨chain,chained⟩ := sound
  obtain ⟨fuel,rfl⟩ : ∃ more, fuel = more+1 := ⟨fuel-1,by omega⟩
  by_cases home : AtHome m id
  · rcases insert_home obj chained small absent home fuel with ⟨after,done,inserted,size,vacant⟩ | ⟨none,_⟩
    · exact ⟨after,done,inserted,size,by omega⟩
    · omega
  · obtain ⟨x,moved,moves,⟨done,nothing⟩ | ⟨temp,held,done⟩⟩ := insert_moves obj chained small absent home (by omega : m.size ≤ fuel)
    · exact ⟨moved,done,moves.dropped nothing,moves.size,by rw [moves.vacant]; omega⟩
    · obtain ⟨later,again⟩ := moves.sound
      have some := chained.sized
      obtain ⟨fuel,rfl⟩ : ∃ more, fuel = more+1 := ⟨fuel-1,by omega⟩
      rcases insert_home temp again moves.small (moves.absent absent) moves.home fuel with ⟨after,back,inserted,size,vacant⟩ | ⟨none,_⟩
      · rw [moves.vacant] at vacant
        exact ⟨after,done.trans back,moves.inserted chained held inserted,size.trans moves.size,by omega⟩
      · rw [moves.vacant] at none
        omega

end Room

section Rehash
variable {slots : List (Slot α)} {t : Map α}

-- The objects of a list of slots, each under another id.
structure Live (slots : List (Slot α)) : Prop where
  small : ∀ slot ∈ slots, slot.obj.isSome = true → slot.id < 2^32
  once : slots.Pairwise (fun (one two : Slot α) => one.obj.isSome = true → two.obj.isSome = true → one.id ≠ two.id)

def HeldIn (slots : List (Slot α)) (id : Nat) (obj : α) : Prop := ∃ slot ∈ slots, slot.id = id ∧ slot.obj = some obj

theorem Chained.live (chained : Chained m chain) : Live m.slot := by
  have used {i} {slot : Slot α} (there : m.slot[i]? = some slot) (held : slot.obj.isSome = true) : m.idAt i = some slot.id := by
    cases own : m.idAt i with
    | none =>
      have none := (chained.free own).2
      rw [objAt_slot there] at none
      rw [none] at held
      cases held
    | some x =>
      have same := (idAt_slot there).symm.trans own
      rw [(used_iff (chained.small own)).mp same]
  refine ⟨?_,List.pairwise_iff_getElem.mpr ?_⟩
  · intro slot mem held
    obtain ⟨i,there⟩ := List.getElem?_of_mem mem
    exact chained.small (used there held)
  · intro i j first second before held other same
    have one := used (List.getElem?_eq_getElem first) held
    have two := used (List.getElem?_eq_getElem second) other
    rw [same] at one
    have equal := chained.once one two
    omega

theorem Chained.heldIn (chained : Chained m chain) (id : Nat) (obj : α) : Holds m id obj ↔ HeldIn m.slot id obj := by
  constructor
  · rintro ⟨i,used,held⟩
    obtain ⟨slot,there⟩ := slot_there (idAt_inside used)
    refine ⟨slot,List.mem_of_getElem? there,?_,(objAt_slot there).symm.trans held⟩
    exact (used_iff (chained.small used)).mp ((idAt_slot there).symm.trans used)
  · rintro ⟨slot,mem,rfl,held⟩
    obtain ⟨i,there⟩ := List.getElem?_of_mem mem
    have small := chained.live.small slot mem (by rw [held]; rfl)
    exact ⟨i,(idAt_slot there).trans ((used_iff small).mpr rfl),(objAt_slot there).trans held⟩

theorem mapNew_idAt (n i : Nat) : (mapNew n : Map α).idAt i = none := by
  unfold Map.idAt mapNew
  dsimp only
  rw [List.getElem?_replicate]
  split <;> rfl

theorem mapNew_chained (some : 0 < n) : Chained (mapNew n : Map α) (fun _ => []) := by
  have size : (mapNew n : Map α).size = n := List.length_replicate
  refine ⟨by rw [size]; exact some,fun _ => .inl rfl,?_,?_,?_,?_,by rw [size]; exact le_refl n,?_⟩
  · intro h i
    rw [mapNew_idAt]
    simp
  · intro i id used
    rw [mapNew_idAt] at used
    cases used
  · intro i j id used
    rw [mapNew_idAt] at used
    cases used
  · intro i _
    unfold Map.next Map.objAt mapNew
    dsimp only
    rw [List.getElem?_replicate]
    split <;> exact ⟨rfl,rfl⟩
  · intro i above below
    rw [size] at below
    exact absurd below (Nat.not_lt.mpr above)

theorem mapNew_vacant (n : Nat) : (mapNew n : Map α).vacant = n := by
  unfold Map.vacant mapNew
  dsimp only
  rw [List.countP_replicate]
  exact if_pos (decide_eq_true rfl)

-- The slots that are left, each with a free slot to go to.
theorem move_slots (live : Live slots) (sound : Sound t) (room : slots.length+n ≤ t.vacant) (enough : t.size < fuel)
    (absent : ∀ slot ∈ slots, slot.obj.isSome = true → ¬ Present t slot.id) :
    ∃ after, slots.foldlM (moveSlot (mapInsert fuel)) t = some after ∧ Sound after ∧
      (∀ j o, Holds after j o ↔ Holds t j o ∨ HeldIn slots j o) ∧ after.size = t.size ∧ n ≤ after.vacant ∧
      ∀ j, Present after j → Present t j ∨ ∃ slot ∈ slots, slot.obj.isSome = true ∧ slot.id = j := by
  induction slots generalizing t with
  | nil =>
    refine ⟨t,rfl,sound,?_,rfl,by simpa using room,fun j there => .inl there⟩
    intro j o
    simp [HeldIn]
  | cons slot rest ih =>
    have later : Live rest := ⟨fun s mem => live.small s (List.mem_cons_of_mem _ mem),live.once.tail⟩
    have others := (List.pairwise_cons.mp live.once).1
    rw [List.length_cons] at room
    rw [List.foldlM_cons]
    cases held : slot.obj with
    | none =>
      have skip : moveSlot (mapInsert fuel) t slot = some t := by
        unfold moveSlot
        rw [held]
      obtain ⟨after,done,keeps,holds,size,vacant,present⟩ :=
        ih later sound (by omega) enough (fun s mem => absent s (List.mem_cons_of_mem _ mem))
      refine ⟨after,?_,keeps,?_,size,vacant,?_⟩
      · rw [skip]
        exact done
      · intro j o
        rw [holds]
        refine or_congr_right ?_
        simp [HeldIn,held]
      · intro j there
        refine (present j there).imp_right (fun ⟨s,mem,facts⟩ => ⟨s,List.mem_cons_of_mem _ mem,facts⟩)
    | some obj =>
      have isSome : slot.obj.isSome = true := by rw [held]; rfl
      have small := live.small slot (List.mem_cons_self ..) isSome
      obtain ⟨next,one,inserted,size,vacant⟩ := insert_room obj sound small (absent slot (List.mem_cons_self ..) isSome)
        (by omega : 0 < t.vacant) enough
      have step : moveSlot (mapInsert fuel) t slot = some next := by
        unfold moveSlot
        rw [held,Nat.mod_eq_of_lt small]
        exact one
      obtain ⟨after,done,keeps,holds,same,more,present⟩ := ih later inserted.sound (by omega) (by omega) (by
        intro s mem some there
        rcases inserted.present s.id there with same | old
        · exact others s mem isSome some same.symm
        · exact absent s (List.mem_cons_of_mem _ mem) some old)
      refine ⟨after,?_,keeps,?_,same.trans size,more,?_⟩
      · rw [step]
        exact done
      · intro j o
        rw [holds,inserted.holds]
        simp only [HeldIn,List.exists_mem_cons_iff,held,Option.some_inj]
        grind
      · intro j there
        rcases present j there with here | ⟨s,mem,facts⟩
        · rcases inserted.present j here with same | old
          · exact .inr ⟨slot,List.mem_cons_self ..,isSome,same.symm⟩
          · exact .inl old
        · exact .inr ⟨s,List.mem_cons_of_mem _ mem,facts⟩

-- A rehash terminates, keeps every object and leaves half of the new table free.
theorem rehash_keeps (sound : Sound m) (enough : 2*m.size < fuel) :
    ∃ after, rehash fuel m = some after ∧ Sound after ∧ (∀ j o, Holds after j o ↔ Holds m j o) ∧ after.size = 2*m.size ∧
      m.size ≤ after.vacant ∧ ∀ j, Present after j → Present m j := by
  obtain ⟨chain,chained⟩ := sound
  have some : 0 < 2*m.size := Nat.mul_pos Nat.two_pos chained.sized
  have size : (mapNew (2*m.size) : Map α).size = 2*m.size := List.length_replicate
  have nobody (j) : ¬ Present (mapNew (2*m.size) : Map α) j := by
    rintro ⟨i,used⟩
    rw [mapNew_idAt] at used
    cases used
  obtain ⟨after,done,keeps,holds,same,vacant,present⟩ := move_slots (n:=m.size) chained.live ⟨_,mapNew_chained some⟩
    (by rw [mapNew_vacant]; unfold Map.size; omega) (by rw [size]; exact enough) (fun slot _ _ => nobody slot.id)
  refine ⟨after,done,keeps,?_,same.trans size,vacant,?_⟩
  · intro j o
    rw [holds,chained.heldIn]
    refine or_iff_right ?_
    rintro ⟨i,used,_⟩
    exact nobody j ⟨i,used⟩
  · intro j there
    rcases present j there with new | ⟨slot,mem,isSome,rfl⟩
    · exact absurd new (nobody j)
    · obtain ⟨o,held⟩ := Option.isSome_iff_exists.mp isSome
      obtain ⟨i,used,_⟩ := (chained.heldIn slot.id o).mpr ⟨slot,mem,rfl,held⟩
      exact ⟨i,used⟩

end Rehash

section Insert

theorem Chained.exhausted (chained : Chained m chain) (none : m.vacant = 0) : Chained {m with lastfree:=0} chain :=
  ⟨chained.sized,chained.path,chained.mem,chained.small,chained.once,chained.free,Nat.zero_le _,fun _ _ below => vacant_none none below⟩

theorem Inserted.rehashed {t : Map α} (inserted : Inserted t id obj after) (holds : ∀ j o, Holds t j o ↔ Holds m j o)
    (present : ∀ j, Present t j → Present m j) : Inserted m id obj after where
  sound := inserted.sound
  holds j o := by rw [inserted.holds,holds]
  present j there := (inserted.present j there).imp_right (present j)

-- How the table grows: by none, or to the double when it is full.
def Grows (m after : Map α) : Prop :=
  after.size = m.size ∧ m.vacant ≤ after.vacant+1 ∨ m.vacant = 0 ∧ after.size = 2*m.size ∧ m.size ≤ after.vacant+1

theorem insert_full (obj : α) (chained : Chained m chain) (small : id < 2^32) (absent : ¬ Present m id) (none : m.vacant = 0)
    (enough : 2*m.size < fuel) :
    ∃ after, (rehash fuel {m with lastfree:=0}).bind (fun m => mapInsert fuel m id obj) = some after ∧ Inserted m id obj after ∧
      after.size = 2*m.size ∧ m.size ≤ after.vacant+1 := by
  have some := chained.sized
  obtain ⟨t,moved,sound,holds,size,vacant,present⟩ := rehash_keeps (m:={m with lastfree:=0}) ⟨chain,chained.exhausted none⟩ enough
  change t.size = 2*m.size at size
  change m.size ≤ t.vacant at vacant
  obtain ⟨after,done,inserted,same,fewer⟩ := insert_room obj sound small (fun there => absent (present id there))
    (by omega : 0 < t.vacant) (by omega : t.size < fuel)
  refine ⟨after,?_,inserted.rehashed holds present,same.trans size,by omega⟩
  rw [moved]
  exact done

-- An insertion terminates, whatever it has to move.
theorem insert_keeps (obj : α) (sound : Sound m) (small : id < 2^32) (absent : ¬ Present m id) (enough : 2*m.size+2 < fuel) :
    ∃ after, mapInsert fuel m id obj = some after ∧ Inserted m id obj after ∧ Grows m after := by
  obtain ⟨chain,chained⟩ := sound
  obtain ⟨fuel,rfl⟩ : ∃ more, fuel = more+2 := ⟨fuel-2,by omega⟩
  by_cases home : AtHome m id
  · rcases insert_home obj chained small absent home (fuel+1) with ⟨after,done,inserted,size,vacant⟩ | ⟨none,full⟩
    · exact ⟨after,done,inserted,.inl ⟨size,vacant.ge⟩⟩
    · obtain ⟨after,done,inserted,size,vacant⟩ := insert_full obj chained small absent none (by omega : 2*m.size < fuel+1)
      exact ⟨after,full.trans done,inserted,.inr ⟨none,size,vacant⟩⟩
  · obtain ⟨x,moved,moves,⟨done,nothing⟩ | ⟨temp,held,done⟩⟩ :=
      insert_moves obj chained small absent home (by omega : m.size ≤ fuel+1)
    · exact ⟨moved,done,moves.dropped nothing,.inl ⟨moves.size,by rw [moves.vacant]; omega⟩⟩
    · obtain ⟨later,again⟩ := moves.sound
      have gone := moves.absent absent
      rcases insert_home temp again moves.small gone moves.home fuel with ⟨after,back,inserted,size,vacant⟩ | ⟨none,full⟩
      · rw [moves.vacant] at vacant
        exact ⟨after,done.trans back,moves.inserted chained held inserted,.inl ⟨size.trans moves.size,vacant.ge⟩⟩
      · obtain ⟨after,back,inserted,size,vacant⟩ := insert_full temp again moves.small gone none
          (by rw [moves.size]; omega : 2*moved.size < fuel)
        rw [moves.vacant] at none
        rw [moves.size] at size vacant
        exact ⟨after,done.trans (full.trans back),moves.inserted chained held inserted,.inr ⟨none,size,vacant⟩⟩

end Insert

end OriginGame.AoiMap
