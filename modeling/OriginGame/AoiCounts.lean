import OriginGame.Aoi

namespace OriginGame.Aoi

variable {objects later : Table Nat Object} {pairs rest : List Pair} {p : Pair} {id : Nat} {obj : Object} {space : Space}

def involved (id : Nat) (pairs : List Pair) : Nat := pairs.countP (fun p => p.watcher = id ∨ p.marker = id)

def watched (id : Nat) (pairs : List Pair) : Nat := pairs.countP (fun p => p.watcher = id)

-- An object is kept by its pairs, and by itself until it leaves.
structure Counted (objects : Table Nat Object) (pairs : List Pair) : Prop where
  ref : ∀ {id obj}, objects.lookup id = some obj → obj.ref = involved id pairs+if obj.mode.drop then 0 else 1
  live : ∀ {id obj}, objects.lookup id = some obj → 0 < obj.ref
  aoiCount : ∀ {id obj}, objects.lookup id = some obj → obj.aoiCount = watched id pairs
  there : ∀ p ∈ pairs, (objects.lookup p.watcher).isSome = true ∧ (objects.lookup p.marker).isSome = true ∧ p.watcher ≠ p.marker

-- An object without its counters.
def Object.body (obj : Object) : Object := {obj with ref:=0, aoiCount:=0}

-- Counters move, and only what has left goes.
structure Counting (objects later : Table Nat Object) : Prop where
  body : ∀ {id obj}, later.lookup id = some obj → ∃ old, objects.lookup id = some old ∧ old.body = obj.body
  stays : ∀ {id obj}, objects.lookup id = some obj → obj.mode.drop = false → (later.lookup id).isSome = true

theorem body_mode {old obj : Object} (same : old.body = obj.body) : old.mode = obj.mode :=
  show old.body.mode = obj.body.mode from congrArg Object.mode same

theorem body_position {old obj : Object} (same : old.body = obj.body) : old.position = obj.position :=
  show old.body.position = obj.body.position from congrArg Object.position same

theorem Counting.refl : Counting objects objects where
  body found := ⟨_,found,rfl⟩
  stays found _ := by rw [found]; rfl

theorem Counting.trans {last : Table Nat Object} (first : Counting objects later) (second : Counting later last) :
    Counting objects last where
  body found := by
    obtain ⟨middle,there,same⟩ := second.body found
    obtain ⟨old,before,body⟩ := first.body there
    exact ⟨old,before,body.trans same⟩
  stays found kept := by
    obtain ⟨middle,there⟩ := Option.isSome_iff_exists.mp (first.stays found kept)
    obtain ⟨old,before,same⟩ := first.body there
    rw [found] at before
    cases before
    apply second.stays there
    rw [← body_mode same]
    exact kept

theorem query_some (found : objects.lookup id = some obj) : query objects id = obj := by
  rw [query,found]
  rfl

section Drop

theorem dropObject_lookup (found : objects.lookup id = some obj) :
    (dropObject objects id).lookup id = if obj.ref-1 ≤ 0 then none else some {obj with ref:=obj.ref-1} := by
  unfold dropObject
  rw [found]
  dsimp only
  split
  · exact AList.lookup_erase id objects
  · exact AList.lookup_insert objects

theorem dropObject_lookup_ne (other : j ≠ id) : (dropObject objects id).lookup j = objects.lookup j := by
  unfold dropObject
  split
  · rfl
  · split
    · exact AList.lookup_erase_ne other
    · exact AList.lookup_insert_ne other

theorem dropPair_watcher (watcher : space.object.lookup p.watcher = some obj) (apart : p.watcher ≠ p.marker) :
    (dropPair p space).object.lookup p.watcher =
      if obj.ref-1 ≤ 0 then none else some {obj with aoiCount:=obj.aoiCount-1, ref:=obj.ref-1} := by
  unfold dropPair
  rw [query_some watcher]
  dsimp only
  rw [dropObject_lookup_ne apart]
  exact dropObject_lookup (AList.lookup_insert _)

theorem dropPair_marker (marker : space.object.lookup p.marker = some obj) (apart : p.watcher ≠ p.marker) :
    (dropPair p space).object.lookup p.marker = if obj.ref-1 ≤ 0 then none else some {obj with ref:=obj.ref-1} := by
  unfold dropPair
  apply dropObject_lookup
  rw [dropObject_lookup_ne apart.symm,AList.lookup_insert_ne apart.symm]
  exact marker

theorem dropPair_other (notWatcher : id ≠ p.watcher) (notMarker : id ≠ p.marker) :
    (dropPair p space).object.lookup id = space.object.lookup id := by
  unfold dropPair
  rw [dropObject_lookup_ne notMarker,dropObject_lookup_ne notWatcher,AList.lookup_insert_ne notWatcher]

theorem involved_cons (id : Nat) (p : Pair) (pairs : List Pair) :
    involved id (p::pairs) = involved id pairs+if p.watcher = id ∨ p.marker = id then 1 else 0 := by
  simp only [involved,List.countP_cons,decide_eq_true_eq]

theorem watched_cons (id : Nat) (p : Pair) (pairs : List Pair) :
    watched id (p::pairs) = watched id pairs+if p.watcher = id then 1 else 0 := by
  simp only [watched,List.countP_cons,decide_eq_true_eq]

theorem involved_mem (mem : p ∈ pairs) (part : p.watcher = id ∨ p.marker = id) : 0 < involved id pairs :=
  List.countP_pos_iff.mpr ⟨p,mem,decide_eq_true part⟩

-- What an object is after the pair is gone, where it is still there.
theorem dropPair_lookup (counted : Counted space.object (p::rest)) (found : (dropPair p space).object.lookup id = some obj) :
    ∃ old, space.object.lookup id = some old ∧ old.body = obj.body ∧
      obj.ref = old.ref-(if p.watcher = id ∨ p.marker = id then 1 else 0) ∧
      obj.aoiCount = old.aoiCount-(if p.watcher = id then 1 else 0) ∧ 0 < obj.ref := by
  obtain ⟨watcher,marker,apart⟩ := counted.there p (List.mem_cons_self ..)
  obtain ⟨w,watcher⟩ := Option.isSome_iff_exists.mp watcher
  obtain ⟨m,marker⟩ := Option.isSome_iff_exists.mp marker
  by_cases isWatcher : id = p.watcher
  · subst isWatcher
    rw [dropPair_watcher watcher apart] at found
    split at found
    · cases found
    · cases found
      exact ⟨w,watcher,rfl,by simp,by simp,by dsimp only; omega⟩
  · by_cases isMarker : id = p.marker
    · subst isMarker
      rw [dropPair_marker marker apart] at found
      split at found
      · cases found
      · cases found
        exact ⟨m,marker,rfl,by simp,by simp [apart],by dsimp only; omega⟩
    · rw [dropPair_other isWatcher isMarker] at found
      exact ⟨obj,found,rfl,by simp [Ne.symm isWatcher,Ne.symm isMarker],by simp [Ne.symm isWatcher],counted.live found⟩

-- An object stays while it has not left or another pair has it.
theorem dropPair_stays (counted : Counted space.object (p::rest)) (found : space.object.lookup id = some obj)
    (reason : obj.mode.drop = false ∨ 0 < involved id rest) : ((dropPair p space).object.lookup id).isSome = true := by
  have ref := counted.ref found
  rw [involved_cons] at ref
  have above (part : p.watcher = id ∨ p.marker = id) : ¬ obj.ref-1 ≤ 0 := by
    rw [if_pos part] at ref
    rcases reason with kept | more
    · rw [kept] at ref
      simp at ref
      omega
    · split at ref <;> omega
  obtain ⟨_,_,apart⟩ := counted.there p (List.mem_cons_self ..)
  by_cases isWatcher : id = p.watcher
  · subst isWatcher
    rw [dropPair_watcher found apart,if_neg (above (.inl rfl))]
    rfl
  · by_cases isMarker : id = p.marker
    · subst isMarker
      rw [dropPair_marker found apart,if_neg (above (.inr rfl))]
      rfl
    · rw [dropPair_other isWatcher isMarker,found]
      rfl

theorem dropPair_counting (counted : Counted space.object (p::rest)) : Counting space.object (dropPair p space).object where
  body found := by
    obtain ⟨old,before,same,_⟩ := dropPair_lookup counted found
    exact ⟨old,before,same⟩
  stays found kept := dropPair_stays counted found (.inl kept)

theorem dropPair_counted (counted : Counted space.object (p::rest)) : Counted (dropPair p space).object rest where
  ref found := by
    obtain ⟨old,before,same,ref,_⟩ := dropPair_lookup counted found
    rw [ref,counted.ref before,involved_cons,body_mode same]
    push_cast
    split <;> omega
  live found := (dropPair_lookup counted found).choose_spec.2.2.2.2
  aoiCount found := by
    obtain ⟨old,before,_,_,count,_⟩ := dropPair_lookup counted found
    rw [count,counted.aoiCount before,watched_cons]
    push_cast
    split <;> omega
  there q mem := by
    obtain ⟨watcher,marker,apart⟩ := counted.there q (List.mem_cons_of_mem _ mem)
    obtain ⟨w,watcher⟩ := Option.isSome_iff_exists.mp watcher
    obtain ⟨m,marker⟩ := Option.isSome_iff_exists.mp marker
    exact ⟨dropPair_stays counted watcher (.inr (involved_mem mem (.inl rfl))),
      dropPair_stays counted marker (.inr (involved_mem mem (.inr rfl))),apart⟩

end Drop

section Flush

theorem Counted.perm (counted : Counted objects pairs) (same : pairs.Perm rest) : Counted objects rest where
  ref found := by
    rw [counted.ref found,involved,involved,same.countP_eq]
  live found := counted.live found
  aoiCount found := by
    rw [counted.aoiCount found,watched,watched,same.countP_eq]
  there p mem := counted.there p (same.mem_iff.mpr mem)

def flushed (space : Space) (p : Pair) : Bool × List Callback :=
  flushOne space.radius2 p (query space.object p.watcher) (query space.object p.marker)

theorem flushed_counting {after : Space} (counting : Counting space.object after.object) (radius2 : after.radius2 = space.radius2)
    (watcher : (after.object.lookup p.watcher).isSome = true) (marker : (after.object.lookup p.marker).isSome = true) :
    flushed after p = flushed space p := by
  obtain ⟨w,watcher⟩ := Option.isSome_iff_exists.mp watcher
  obtain ⟨m,marker⟩ := Option.isSome_iff_exists.mp marker
  obtain ⟨ow,before,sameW⟩ := counting.body watcher
  obtain ⟨om,earlier,sameM⟩ := counting.body marker
  -- flushOne reads no counter.
  have bodies (a b : Object) : flushOne space.radius2 p a b = flushOne space.radius2 p a.body b.body := rfl
  unfold flushed
  rw [radius2,query_some watcher,query_some marker,query_some before,query_some earlier,bodies w,bodies ow,sameW,sameM]

structure Flushed (space : Space) (front pairs : List Pair) (result : List Pair × List Callback × Space) : Prop where
  kept : result.1 = pairs.filter (fun p => (flushed space p).1)
  calls : result.2.1 = pairs.flatMap (fun p => (flushed space p).2)
  counted : Counted result.2.2.object (front++result.1)
  counting : Counting space.object result.2.2.object
  pairHash : result.2.2.pairHash = front++result.1
  radius2 : result.2.2.radius2 = space.radius2
  maxAoiCount : result.2.2.maxAoiCount = space.maxAoiCount

theorem flushPairs_keeps (result : flushed space p = (true,calls)) (rest : List Pair) :
    flushPairs (p::rest) space = (p::(flushPairs rest space).1,calls++(flushPairs rest space).2.1,(flushPairs rest space).2.2) := by
  unfold flushed at result
  rw [flushPairs,result]

theorem flushPairs_drops (result : flushed space p = (false,calls)) (rest : List Pair) :
    flushPairs (p::rest) space = ((flushPairs rest (dropPair p space)).1,calls++(flushPairs rest (dropPair p space)).2.1,
      (flushPairs rest (dropPair p space)).2.2) := by
  unfold flushed at result
  rw [flushPairs,result]

theorem flushPairs_flushed (pairs front : List Pair) (space : Space) (counted : Counted space.object (front++pairs))
    (pairHash : space.pairHash = front++pairs) (distinct : (front++pairs).Nodup) :
    Flushed space front pairs (flushPairs pairs space) := by
  induction pairs generalizing front space with
  | nil => exact ⟨rfl,rfl,counted,.refl,pairHash,rfl,rfl⟩
  | cons p rest ih =>
    cases result : flushed space p with
    | mk stays calls =>
      cases stays with
      | true =>
        rw [flushPairs_keeps result rest]
        have shift : front++p::rest = (front++[p])++rest := by rw [List.append_assoc]; rfl
        rw [shift] at counted pairHash distinct
        have done := ih (front++[p]) space counted pairHash distinct
        have back : (front++[p])++(flushPairs rest space).1 = front++p::(flushPairs rest space).1 := by
          rw [List.append_assoc]
          rfl
        refine ⟨?_,?_,?_,done.counting,?_,done.radius2,done.maxAoiCount⟩
        · rw [List.filter_cons,result,if_pos rfl,← done.kept]
        · rw [List.flatMap_cons,result,← done.calls]
        · rw [← back]
          exact done.counted
        · rw [← back]
          exact done.pairHash
      | false =>
        rw [flushPairs_drops result rest]
        have first : Counted space.object (p::(front++rest)) := counted.perm List.perm_middle
        have gone : p ∉ front := by
          intro mem
          exact (List.nodup_append.mp distinct).2.2 p mem p (List.mem_cons_self ..) rfl
        have hash : (dropPair p space).pairHash = front++rest := by
          change space.pairHash.erase p = front++rest
          rw [pairHash,List.erase_append_right _ gone,List.erase_cons_head]
        have fewer : (front++rest).Nodup := distinct.sublist (by simp)
        have counting := dropPair_counting first
        have counted := dropPair_counted first
        have done := ih front (dropPair p space) counted hash fewer
        have same (q) (mem : q ∈ rest) : flushed (dropPair p space) q = flushed space q := by
          obtain ⟨watcher,marker,_⟩ := counted.there q (List.mem_append_right _ mem)
          exact flushed_counting counting rfl watcher marker
        refine ⟨?_,?_,done.counted,counting.trans done.counting,done.pairHash,done.radius2,done.maxAoiCount⟩
        · rw [List.filter_cons,result,if_neg Bool.false_ne_true,done.kept]
          exact List.filter_congr (fun q mem => by rw [same q mem])
        · rw [List.flatMap_cons,result,done.calls]
          exact congrArg (calls++·) (List.flatMap_congr (fun q mem => by rw [same q mem]))

end Flush

section Push

def Object.still (obj : Object) : Object := if obj.mode.watcher || obj.mode.marker then {obj with mode.move:=false} else obj

theorem setPush_lookup (state : Sets × Table Nat Object) (id j : Nat) :
    (setPush state id).2.lookup j = if j = id then (state.2.lookup j).map Object.still else state.2.lookup j := by
  unfold setPush
  dsimp only
  by_cases same : j = id
  · subst same
    rw [if_pos rfl]
    cases found : state.2.lookup j with
    | none =>
      rw [query,found]
      exact found
    | some obj =>
      rw [query_some found,Option.map_some]
      unfold Object.still
      split
      · exact AList.lookup_insert _
      · exact found
  · rw [if_neg same]
    split
    · exact AList.lookup_insert_ne same
    · rfl

-- Who went through the foreach, by mode.
structure Pushed (sets : Sets) (objects : Table Nat Object) (ids : List Nat) (result : Sets × Table Nat Object) : Prop where
  lookup : ∀ j, result.2.lookup j = if j ∈ ids then (objects.lookup j).map Object.still else objects.lookup j
  watcherStatic : ∀ j, j ∈ result.1.watcherStatic ↔ j ∈ sets.watcherStatic ∨
    j ∈ ids ∧ (query objects j).mode.watcher = true ∧ (query objects j).mode.move = false
  markerStatic : ∀ j, j ∈ result.1.markerStatic ↔ j ∈ sets.markerStatic ∨
    j ∈ ids ∧ (query objects j).mode.marker = true ∧ (query objects j).mode.move = false
  watcherMove : ∀ j, j ∈ result.1.watcherMove ↔ j ∈ sets.watcherMove ∨
    j ∈ ids ∧ (query objects j).mode.watcher = true ∧ (query objects j).mode.move = true
  markerMove : ∀ j, j ∈ result.1.markerMove ↔ j ∈ sets.markerMove ∨
    j ∈ ids ∧ (query objects j).mode.marker = true ∧ (query objects j).mode.move = true

theorem setPush_pushed (state : Sets × Table Nat Object) (id : Nat) : Pushed state.1 state.2 [id] (setPush state id) := by
  refine ⟨?_,?_,?_,?_,?_⟩
  · intro j
    rw [setPush_lookup]
    simp only [List.mem_singleton]
  all_goals
    intro j
    unfold setPush
    by_cases same : j = id
    · subst same
      cases watcher : (query state.2 j).mode.watcher <;> cases marker : (query state.2 j).mode.marker <;>
        cases move : (query state.2 j).mode.move <;> simp [watcher,marker,move]
    · cases watcher : (query state.2 id).mode.watcher <;> cases marker : (query state.2 id).mode.marker <;>
        cases move : (query state.2 id).mode.move <;> simp [same,watcher,marker,move]

theorem push_pushed (ids : List Nat) (distinct : ids.Nodup) (state : Sets × Table Nat Object) :
    Pushed state.1 state.2 ids (ids.foldl setPush state) := by
  induction ids generalizing state with
  | nil => refine ⟨?_,?_,?_,?_,?_⟩ <;> intro j <;> simp
  | cons id rest ih =>
    obtain ⟨fresh,distinct⟩ := List.nodup_cons.mp distinct
    have first := setPush_pushed state id
    have done := ih distinct (setPush state id)
    -- The later ones are still as they were.
    have before (j) (mem : j ∈ rest) : query (setPush state id).2 j = query state.2 j := by
      have other : j ≠ id := fun same => fresh (same ▸ mem)
      rw [query,query,setPush_lookup,if_neg other]
    rw [List.foldl_cons]
    refine ⟨?_,?_,?_,?_,?_⟩
    · intro j
      rw [done.lookup,first.lookup]
      by_cases same : j = id
      · subst same
        simp [fresh]
      · simp [same]
    · intro j
      rw [done.watcherStatic,first.watcherStatic]
      grind
    · intro j
      rw [done.markerStatic,first.markerStatic]
      grind
    · intro j
      rw [done.watcherMove,first.watcherMove]
      grind
    · intro j
      rw [done.markerMove,first.markerMove]
      grind

end Push

section Generate

-- Only counters differ.
def SameBodies (objects later : Table Nat Object) : Prop :=
  ∀ id, (later.lookup id).map Object.body = (objects.lookup id).map Object.body

theorem SameBodies.isSome (same : SameBodies objects later) (id : Nat) : (later.lookup id).isSome = (objects.lookup id).isSome := by
  have there := congrArg Option.isSome (same id)
  rwa [Option.isSome_map,Option.isSome_map] at there

theorem query_body (same : SameBodies objects later) (id : Nat) : (query later id).body = (query objects id).body := by
  have there := same id
  unfold query
  cases before : objects.lookup id with
  | none =>
    rw [before,Option.map_none,Option.map_eq_none_iff] at there
    rw [there]
  | some old =>
    rw [before,Option.map_some] at there
    obtain ⟨obj,after,same⟩ := Option.map_eq_some_iff.mp there
    rw [after]
    exact same

theorem query_position (same : SameBodies objects later) (id : Nat) : (query later id).position = (query objects id).position :=
  body_position (query_body same id)

theorem addPair_lookup (apart : w ≠ m) (watcher : space.object.lookup w = some ow) (marker : space.object.lookup m = some om)
    (id : Nat) : (addPair w m space).object.lookup id =
      if id = w then some {ow with ref:=ow.ref+1, aoiCount:=ow.aoiCount+1}
      else if id = m then some {om with ref:=om.ref+1} else space.object.lookup id := by
  unfold addPair
  rw [query_some watcher,query_some marker]
  dsimp only
  by_cases isMarker : id = m
  · subst isMarker
    rw [AList.lookup_insert,if_neg apart.symm,if_pos rfl]
  · rw [AList.lookup_insert_ne isMarker,if_neg isMarker]
    split
    · rename_i isWatcher
      subst isWatcher
      rw [AList.lookup_insert]
    · rename_i notWatcher
      rw [AList.lookup_insert_ne notWatcher]

theorem addPair_bodies (apart : w ≠ m) (watcher : space.object.lookup w = some ow) (marker : space.object.lookup m = some om) :
    SameBodies space.object (addPair w m space).object := by
  intro id
  rw [addPair_lookup apart watcher marker]
  split
  · rename_i same
    rw [same,watcher]
    rfl
  · split
    · rename_i same
      rw [same,marker]
      rfl
    · rfl

theorem addPair_counted (counted : Counted space.object space.hot) (apart : w ≠ m)
    (watcher : space.object.lookup w = some ow) (marker : space.object.lookup m = some om) :
    Counted (addPair w m space).object (addPair w m space).hot := by
  have same := addPair_lookup apart watcher marker
  change Counted _ (⟨pairKey w m,w,m⟩::space.hot)
  refine ⟨?_,?_,?_,?_⟩
  · intro id obj found
    rw [same] at found
    rw [involved_cons]
    push_cast
    split at found
    · rename_i isWatcher
      subst isWatcher
      cases found
      have ref := counted.ref watcher
      simp only [true_or,if_true]
      omega
    · rename_i notWatcher
      split at found
      · rename_i isMarker
        subst isMarker
        cases found
        have ref := counted.ref marker
        simp only [or_true,if_true]
        omega
      · rename_i notMarker
        have neither : ¬ (w = id ∨ m = id) := fun part => part.elim (Ne.symm notWatcher) (Ne.symm notMarker)
        simp only [counted.ref found,neither,if_false]
        omega
  · intro id obj found
    rw [same] at found
    split at found
    · cases found
      have live := counted.live watcher
      dsimp only
      omega
    · split at found
      · cases found
        have live := counted.live marker
        dsimp only
        omega
      · exact counted.live found
  · intro id obj found
    rw [same] at found
    rw [watched_cons]
    push_cast
    split at found
    · rename_i isWatcher
      subst isWatcher
      cases found
      have count := counted.aoiCount watcher
      simp only [if_true]
      omega
    · rename_i notWatcher
      rw [if_neg (Ne.symm notWatcher),add_zero]
      split at found
      · rename_i isMarker
        subst isMarker
        cases found
        have count := counted.aoiCount marker
        exact count
      · exact counted.aoiCount found
  · have there := (addPair_bodies apart watcher marker).isSome
    intro p mem
    rw [there,there]
    rcases List.mem_cons.mp mem with rfl | old
    · exact ⟨by rw [watcher]; rfl,by rw [marker]; rfl,apart⟩
    · exact counted.there p old

-- What keeps a candidate from becoming a pair.
def Blocked (space : Space) (w m : Nat) : Prop :=
  w = m ∨ space.maxAoiCount ≤ watched w space.hot ∨ (∃ p ∈ space.hot, p.key = pairKey w m) ∨
    space.radius2 < dist2 (query space.object w).position (query space.object m).position

theorem genPair_cases (counted : Counted space.object space.hot) (pairHash : space.pairHash = space.hot)
    (watcher : (space.object.lookup w).isSome = true) (calls : List Callback) :
    genPair (space,calls) (w,m) = (space,calls) ∧ Blocked space w m ∨
    genPair (space,calls) (w,m) = (addPair w m space,calls++[call w m .m (query space.object m)]) ∧ w ≠ m ∧
      (∀ p ∈ space.hot, p.key ≠ pairKey w m) ∧
      dist2 (query space.object w).position (query space.object m).position ≤ space.radius2 := by
  obtain ⟨obj,watcher⟩ := Option.isSome_iff_exists.mp watcher
  have count := counted.aoiCount watcher
  unfold genPair
  dsimp only
  rw [query_some watcher]
  split
  · rename_i reason
    left
    refine ⟨rfl,?_⟩
    rcases reason with same | full
    · exact .inl same
    · right; left
      omega
  · rename_i free
    split
    · rename_i found
      left
      refine ⟨rfl,.inr (.inr (.inl ?_))⟩
      rw [pairHash] at found
      obtain ⟨p,mem,key⟩ := List.any_eq_true.mp found
      exact ⟨p,mem,of_decide_eq_true key⟩
    · rename_i fresh
      split
      · rename_i far
        left
        refine ⟨rfl,.inr (.inr (.inr ?_))⟩
        rw [query_some watcher]
        exact far
      · rename_i close
        right
        refine ⟨rfl,fun same => free (.inl same),?_,not_lt.mp close⟩
        intro p mem key
        apply fresh
        rw [pairHash]
        exact List.any_eq_true.mpr ⟨p,mem,decide_eq_true key⟩

-- The candidates that were neither blocked nor there already, newest first.
structure Generated (state : Space × List Callback) (candidates : List (Nat × Nat)) (result : Space × List Callback) : Prop where
  bodies : SameBodies state.1.object result.1.object
  counted : Counted result.1.object result.1.hot
  pairHash : result.1.pairHash = result.1.hot
  distinct : (result.1.hot.map Pair.key).Nodup
  radius2 : result.1.radius2 = state.1.radius2
  maxAoiCount : result.1.maxAoiCount = state.1.maxAoiCount
  added : ∃ new, result.1.hot = new++state.1.hot ∧
    (∀ p ∈ new, (p.watcher,p.marker) ∈ candidates ∧ p.key = pairKey p.watcher p.marker ∧ p.watcher ≠ p.marker ∧
      dist2 (query state.1.object p.watcher).position (query state.1.object p.marker).position ≤ state.1.radius2) ∧
    ∃ calls, result.2 = state.2++calls ∧
      calls.map (fun c => (c.watcher,c.marker,c.action)) = new.reverse.map (fun p => (p.watcher,p.marker,Action.m))
  blocked : ∀ ids ∈ candidates, Blocked result.1 ids.1 ids.2

theorem Blocked.mono {after : Space} (blocked : Blocked space w m) (bodies : SameBodies space.object after.object)
    (radius2 : after.radius2 = space.radius2) (maxAoiCount : after.maxAoiCount = space.maxAoiCount)
    (more : after.hot = new++space.hot) : Blocked after w m := by
  rcases blocked with same | full | found | far
  · exact .inl same
  · right; left
    rw [maxAoiCount,more,watched,List.countP_append]
    unfold watched at full
    omega
  · obtain ⟨p,mem,key⟩ := found
    right; right; left
    refine ⟨p,?_,key⟩
    rw [more]
    exact List.mem_append_right _ mem
  · right; right; right
    rw [radius2,query_position bodies,query_position bodies]
    exact far

theorem SameBodies.trans {last : Table Nat Object} (first : SameBodies objects later) (second : SameBodies later last) :
    SameBodies objects last := fun id => (second id).trans (first id)

theorem genPair_generated (candidates : List (Nat × Nat)) (state : Space × List Callback)
    (counted : Counted state.1.object state.1.hot) (pairHash : state.1.pairHash = state.1.hot)
    (distinct : (state.1.hot.map Pair.key).Nodup)
    (there : ∀ ids ∈ candidates, (state.1.object.lookup ids.1).isSome = true ∧ (state.1.object.lookup ids.2).isSome = true) :
    Generated state candidates (candidates.foldl genPair state) := by
  induction candidates generalizing state with
  | nil =>
    refine ⟨fun _ => rfl,counted,pairHash,distinct,rfl,rfl,⟨[],rfl,?_,[],(List.append_nil _).symm,rfl⟩,?_⟩
    · intro p mem
      cases mem
    · intro ids mem
      cases mem
  | cons ids rest ih =>
    obtain ⟨w,m⟩ := ids
    obtain ⟨space,calls⟩ := state
    obtain ⟨watcher,marker⟩ := there (w,m) (List.mem_cons_self ..)
    have others : ∀ ids ∈ rest, (space.object.lookup ids.1).isSome = true ∧ (space.object.lookup ids.2).isSome = true :=
      fun ids mem => there ids (List.mem_cons_of_mem _ mem)
    rw [List.foldl_cons]
    rcases genPair_cases counted pairHash watcher calls with ⟨same,blocked⟩ | ⟨same,apart,fresh,close⟩
    · rw [same]
      have done := ih (space,calls) counted pairHash distinct others
      obtain ⟨new,more,each,delivered⟩ := done.added
      refine ⟨done.bodies,done.counted,done.pairHash,done.distinct,done.radius2,done.maxAoiCount,⟨new,more,?_,delivered⟩,?_⟩
      · intro p mem
        obtain ⟨candidate,facts⟩ := each p mem
        exact ⟨List.mem_cons_of_mem _ candidate,facts⟩
      · intro ids mem
        rcases List.mem_cons.mp mem with rfl | later
        · exact blocked.mono done.bodies done.radius2 done.maxAoiCount more
        · exact done.blocked ids later
    · rw [same]
      obtain ⟨ow,watcher⟩ := Option.isSome_iff_exists.mp watcher
      obtain ⟨om,marker⟩ := Option.isSome_iff_exists.mp marker
      have bodies := addPair_bodies apart watcher marker
      have fewer : ((addPair w m space).hot.map Pair.key).Nodup := by
        refine List.nodup_cons.mpr ⟨?_,distinct⟩
        intro mem
        obtain ⟨p,old,key⟩ := List.mem_map.mp mem
        exact fresh p old key
      have done := ih (addPair w m space,calls++[call w m .m (query space.object m)]) (addPair_counted counted apart watcher marker)
        (congrArg (List.cons (⟨pairKey w m,w,m⟩ : Pair)) pairHash) fewer
        (fun ids mem => by
          change (((addPair w m space).object.lookup ids.1).isSome = true ∧ ((addPair w m space).object.lookup ids.2).isSome = true)
          rw [bodies.isSome,bodies.isSome]
          exact others ids mem)
      obtain ⟨new,more,each,sent,delivered,listed⟩ := done.added
      have grown : (rest.foldl genPair (addPair w m space,calls++[call w m .m (query space.object m)])).1.hot =
          (new++[⟨pairKey w m,w,m⟩])++space.hot := by
        rw [more,List.append_assoc]
        rfl
      refine ⟨bodies.trans done.bodies,done.counted,done.pairHash,done.distinct,done.radius2,done.maxAoiCount,
        ⟨new++[⟨pairKey w m,w,m⟩],grown,?_,[call w m .m (query space.object m)]++sent,?_,?_⟩,?_⟩
      · intro p mem
        rcases List.mem_append.mp mem with old | here
        · obtain ⟨candidate,key,apart,near⟩ := each p old
          refine ⟨List.mem_cons_of_mem _ candidate,key,apart,?_⟩
          dsimp only at near ⊢
          rw [query_position bodies,query_position bodies] at near
          exact near
        · cases List.mem_singleton.mp here
          exact ⟨List.mem_cons_self ..,rfl,apart,close⟩
      · rw [delivered,List.append_assoc]
      · rw [List.map_append,listed,List.reverse_append,List.map_append]
        rfl
      · intro ids mem
        rcases List.mem_cons.mp mem with rfl | later
        · have now : Blocked (addPair w m space) w m := .inr (.inr (.inl ⟨_,List.mem_cons_self ..,rfl⟩))
          exact now.mono done.bodies done.radius2 done.maxAoiCount more
        · exact done.blocked ids later

end Generate
end OriginGame.Aoi
