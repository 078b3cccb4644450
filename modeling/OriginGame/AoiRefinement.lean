import OriginGame.AoiCounts
import OriginGame.AoiRefs
import OriginGame.Runs

namespace OriginGame.AoiHeap
open Aoi (Position Object Callback Sets readMode leave call pairKey)

variable {space after : Space} {ids : Aoi.Space} {objects later : Table Nat Object} {pairs : List Pair} {q : Pair}
variable {p w m : Pointer} {id : Nat} {obj cell : Cell} {radius2 : ℚ}

-- The comparisons of exact numbers.
def exact (radius2 : ℚ) : Distances :=
  ⟨Aoi.isNear,fun p q => decide (Aoi.dist2 p q > radius2),fun p q => decide (Aoi.dist2 p q > 0)⟩

def idAt (space : Space) (p : Pointer) : Nat := (space.heap.lookup p).elim 0 Cell.id

def named (space : Space) (q : Pair) : Aoi.Pair := ⟨q.key,idAt space q.watcher,idAt space q.marker⟩

-- The objects under their ids are those of the heap.
def Bodies (space : Space) (objects : Table Nat Object) : Prop :=
  ∀ id body, objects.lookup id = some body ↔ ∃ p, space.heap.lookup p = some ⟨id,body⟩

structure Abstracts (radius2 : ℚ) (space : Space) (ids : Aoi.Space) : Prop where
  bodies : Bodies space ids.object
  pairHash : ids.pairHash = space.pairHash.map (named space)
  maxAoiCount : ids.maxAoiCount = space.maxAoiCount
  radius2 : ids.radius2 = radius2

structure Refines (radius2 : ℚ) (space : Space) (ids : Aoi.Space) : Prop extends Abstracts radius2 space ids where
  hot : ids.hot = space.hot.map (named space)

section Names

theorem idAt_found (found : space.heap.lookup p = some obj) : idAt space p = obj.id := by
  rw [idAt,found]
  rfl

theorem Names.idAt (names : Names space after) (live : (after.heap.lookup p).isSome = true) : idAt after p = idAt space p := by
  obtain ⟨obj,found⟩ := Option.isSome_iff_exists.mp live
  obtain ⟨old,before,same⟩ := names p obj found
  rw [idAt_found found,idAt_found before,same]

theorem Names.named (names : Names space after) (sound : Sound after pairs) (mem : q ∈ pairs) : named after q = named space q := by
  obtain ⟨watcher,marker,foundW,foundM,_⟩ := sound.there q mem
  unfold AoiHeap.named
  rw [names.idAt (Option.isSome_iff_exists.mpr ⟨_,foundW⟩),names.idAt (Option.isSome_iff_exists.mpr ⟨_,foundM⟩)]

theorem Names.map_named {list : List Pair} (names : Names space after) (sound : Sound after pairs) (part : ∀ q ∈ list, q ∈ pairs) :
    list.map (AoiHeap.named after) = list.map (AoiHeap.named space) :=
  List.map_congr_left (fun q mem => names.named sound (part q mem))

-- One address for one id.
theorem same_iff (mapped : Mapped space) (found : space.heap.lookup p = some obj) (there : space.heap.lookup j = some cell) :
    j = p ↔ cell.id = obj.id := by
  constructor
  · rintro rfl
    rw [found] at there
    cases there
    rfl
  · intro same
    have first := (mapped obj.id p).mpr ⟨obj,found,rfl⟩
    have second := (mapped obj.id j).mpr ⟨cell,there,same⟩
    exact Option.some_inj.mp (second.symm.trans first)

end Names

section Bodies

theorem Bodies.found (bodies : Bodies space objects) (found : space.heap.lookup p = some obj) : objects.lookup obj.id = some obj.body :=
  (bodies _ _).mpr ⟨p,found⟩

theorem Bodies.query (bodies : Bodies space objects) (found : space.heap.lookup p = some obj) : Aoi.query objects obj.id = obj.body :=
  Aoi.query_some (bodies.found found)

-- The same is done to an object at its address and under its id.
theorem Bodies.bind {f : Pointer → Cell → Option Cell} {g : Nat → Object → Option Object} (bodies : Bodies space objects)
    (heap : ∀ j, after.heap.lookup j = (space.heap.lookup j).bind (f j)) (table : ∀ k, later.lookup k = (objects.lookup k).bind (g k))
    (agree : ∀ j k body, space.heap.lookup j = some ⟨k,body⟩ → f j ⟨k,body⟩ = (g k body).map (Cell.mk k)) : Bodies after later := by
  intro id body
  rw [table,Option.bind_eq_some_iff]
  constructor
  · rintro ⟨old,before,becomes⟩
    obtain ⟨p,found⟩ := (bodies id old).mp before
    refine ⟨p,?_⟩
    rw [heap,found,Option.bind_some,agree p id old found,becomes]
    rfl
  · rintro ⟨p,there⟩
    rw [heap,Option.bind_eq_some_iff] at there
    obtain ⟨⟨k,old⟩,found,becomes⟩ := there
    rw [agree p k old found,Option.map_eq_some_iff] at becomes
    obtain ⟨_,becomes,same⟩ := becomes
    cases same
    exact ⟨old,bodies.found found,becomes⟩

theorem set_bodies (mapped : Mapped space) (bodies : Bodies space objects) (found : space.heap.lookup p = some obj) (body : Object) :
    Bodies (space.set p ⟨obj.id,body⟩) (objects.insert obj.id body) := by
  refine bodies.bind (f:=fun j cell => some (if j = p then ⟨obj.id,body⟩ else cell))
    (g:=fun k old => some (if k = obj.id then body else old)) ?_ ?_ ?_
  · intro j
    rw [set_lookup]
    split
    · rename_i here
      rw [here,found]
      rfl
    · cases space.heap.lookup j <;> rfl
  · intro k
    by_cases here : k = obj.id
    · subst here
      rw [AList.lookup_insert,bodies.found found]
      simp
    · rw [AList.lookup_insert_ne here]
      simp [here]
  · intro j k old there
    have same := same_iff mapped found there
    dsimp only at same
    by_cases here : j = p
    · rw [if_pos here,if_pos (same.mp here),same.mp here]
      rfl
    · rw [if_neg here,if_neg (fun other => here (same.mpr other))]
      rfl

theorem dropObject_bodies (mapped : Mapped space) (bodies : Bodies space objects) (found : space.heap.lookup p = some obj)
    (heap : ∀ j, after.heap.lookup j = if j = p then release obj else space.heap.lookup j) :
    Bodies after (Aoi.dropObject objects obj.id) := by
  have body (k : Nat) (old : Object) : (release ⟨k,old⟩).map Cell.body = if old.ref-1 ≤ 0 then none else some {old with ref:=old.ref-1} := by
    unfold release
    split <;> rfl
  have id (k : Nat) (old : Object) : release ⟨k,old⟩ = ((release ⟨k,old⟩).map Cell.body).map (Cell.mk k) := by
    unfold release
    split <;> rfl
  refine bodies.bind (f:=fun j cell => if j = p then release cell else some cell)
    (g:=fun k old => if k = obj.id then (release ⟨k,old⟩).map Cell.body else some old) ?_ ?_ ?_
  · intro j
    rw [heap]
    split
    · rename_i here
      rw [here,found]
      rfl
    · cases space.heap.lookup j <;> rfl
  · intro k
    by_cases here : k = obj.id
    · subst here
      rw [Aoi.dropObject_lookup (bodies.found found),bodies.found found,Option.bind_some,if_pos rfl,body]
    · rw [Aoi.dropObject_lookup_ne here]
      simp [here]
  · intro j k old there
    have same := same_iff mapped found there
    dsimp only at same
    by_cases here : j = p
    · rw [if_pos here,if_pos (same.mp here)]
      exact id k old
    · rw [if_neg here,if_neg (fun other => here (same.mpr other))]
      rfl

theorem dropPair_bodies (mapped : Mapped space) (bodies : Bodies space ids.object) (watcher : space.heap.lookup q.watcher = some obj)
    (marker : space.heap.lookup q.marker = some cell) (apart : q.watcher ≠ q.marker) :
    ∃ after, dropPair q space = some after ∧ Bodies after (Aoi.dropPair ⟨q.key,obj.id,cell.id⟩ ids).object := by
  have start : Mapped {space with pairHash:=space.pairHash.erase q} := mapped
  have begins : Bodies {space with pairHash:=space.pairHash.erase q} ids.object := bodies
  have fewer := set_lookup {space with pairHash:=space.pairHash.erase q} q.watcher {obj with body.aoiCount:=obj.body.aoiCount-1}
  have counted : Mapped (({space with pairHash:=space.pairHash.erase q} : Space).set q.watcher
      {obj with body.aoiCount:=obj.body.aoiCount-1}) := set_mapped start watcher rfl
  have counts : Bodies _ _ := set_bodies start begins watcher {obj.body with aoiCount:=obj.body.aoiCount-1}
  have here := (fewer q.watcher).trans (if_pos rfl)
  obtain ⟨middle,first,_,_,mapped,heap⟩ := dropObject_done counted here
  have once := dropObject_bodies counted counts here heap
  have still : middle.heap.lookup q.marker = some cell := by
    rw [heap,if_neg apart.symm,fewer,if_neg apart.symm]
    exact marker
  obtain ⟨after,second,_,_,_,heap'⟩ := dropObject_done mapped still
  refine ⟨after,?_,?_⟩
  · unfold dropPair
    simp only [watcher,Option.bind_eq_bind,Option.bind_some,first,second]
  · unfold Aoi.dropPair
    rw [bodies.query watcher]
    exact dropObject_bodies mapped once still heap'

end Bodies

section Flush

theorem flushOne_named (radius2 : ℚ) (key : List Char) (watcher marker : Cell) :
    Aoi.flushOne radius2 ⟨key,watcher.id,marker.id⟩ watcher.body marker.body = flushOne (exact radius2) watcher marker := by
  unfold Aoi.flushOne flushOne exact
  simp only [decide_eq_true_eq]

-- A pair is known by its key.
theorem erase_named {list : List Pair} (f : Pair → Aoi.Pair) (same : ∀ q, (f q).key = q.key) (distinct : (list.map Pair.key).Nodup)
    (mem : q ∈ list) : (list.erase q).map f = (list.map f).erase (f q) := by
  induction list with
  | nil => cases mem
  | cons r rest ih =>
    obtain ⟨new,others⟩ := List.nodup_cons.mp distinct
    by_cases here : r = q
    · subst here
      rw [List.erase_cons_head,List.map_cons,List.erase_cons_head]
    · have there : q ∈ rest := (List.mem_cons.mp mem).resolve_left (Ne.symm here)
      have away : f r ≠ f q := by
        intro equal
        refine new (List.mem_map.mpr ⟨q,there,?_⟩)
        rw [←same,←same,equal]
      rw [List.erase_cons_tail (by simpa using here),List.map_cons,List.map_cons,ih others there,List.erase_cons_tail (by simpa using away)]

theorem dropPair_abstracts (sound : Sound space (q::pairs)) (abstracts : Abstracts radius2 space ids) :
    ∃ after, dropPair q space = some after ∧ Frame space after ∧ Sound after pairs ∧
      Abstracts radius2 after (Aoi.dropPair (named space q) ids) := by
  obtain ⟨watcher,marker,foundW,foundM,apart,_⟩ := sound.there q (List.mem_cons_self ..)
  have name : named space q = ⟨q.key,watcher.id,marker.id⟩ := by
    rw [named,idAt_found foundW,idAt_found foundM]
  obtain ⟨after,done,bodies⟩ := dropPair_bodies sound.mapped abstracts.bodies foundW foundM apart
  obtain ⟨_,done',frame,hash,_⟩ := dropPair_done sound.mapped foundW foundM apart
  obtain ⟨_,done'',_,keeps⟩ := dropPair_sound sound
  rw [done] at done' done''
  cases done'
  cases done''
  refine ⟨after,done,frame,keeps,?_,?_,?_,abstracts.radius2⟩
  · rw [name]
    exact bodies
  · have distinct := (sound.pairHash.map Pair.key).nodup_iff.mpr sound.distinct
    have mem := sound.pairHash.mem_iff.mpr (List.mem_cons_self ..)
    rw [frame.names.map_named keeps (fun _ => keeps.pairHash.mem_iff.mp),hash,erase_named (named space) (fun _ => rfl) distinct mem,
      ←abstracts.pairHash]
    rfl
  · rw [frame.maxAoiCount]
    exact abstracts.maxAoiCount

theorem flushPairs_abstracts (pairs front : List Pair) (space : Space) (ids : Aoi.Space) (sound : Sound space (front++pairs))
    (abstracts : Abstracts radius2 space ids) :
    ∃ kept calls after ids', flushPairs (exact radius2) pairs space = some (kept,calls,after) ∧
      Aoi.flushPairs (pairs.map (named space)) ids = (kept.map (named after),calls,ids') ∧
      Frame space after ∧ Sound after (front++kept) ∧ Abstracts radius2 after ids' := by
  induction pairs generalizing front space ids with
  | nil => exact ⟨[],[],space,ids,rfl,rfl,.refl space,sound,abstracts⟩
  | cons q rest ih =>
    obtain ⟨watcher,marker,foundW,foundM,_⟩ := sound.there q (List.mem_append_right _ (List.mem_cons_self ..))
    have name : named space q = ⟨q.key,watcher.id,marker.id⟩ := by
      rw [named,idAt_found foundW,idAt_found foundM]
    have one : Aoi.flushOne ids.radius2 (named space q) (Aoi.query ids.object (named space q).watcher)
        (Aoi.query ids.object (named space q).marker) = flushOne (exact radius2) watcher marker := by
      rw [name,abstracts.bodies.query foundW,abstracts.bodies.query foundM,abstracts.radius2]
      exact flushOne_named ..
    rw [flushPairs,List.map_cons,Aoi.flushPairs,one]
    simp only [foundW,foundM,Option.bind_eq_bind,Option.bind_some]
    obtain ⟨stays,told⟩ := flushOne (exact radius2) watcher marker
    cases stays with
    | true =>
      have shift : front++q::rest = (front++[q])++rest := by
        rw [List.append_assoc]
        rfl
      rw [shift] at sound
      obtain ⟨kept,later,after,ids',done,does,frame,keeps,abstracts⟩ := ih (front++[q]) space ids sound abstracts
      rw [List.append_assoc] at keeps
      refine ⟨q::kept,told++later,after,ids',?_,?_,frame,keeps,abstracts⟩
      · rw [done]
        rfl
      · have still := frame.names.named keeps (q:=q) (List.mem_append_right _ (List.mem_cons_self ..))
        rw [does,List.map_cons,still]
    | false =>
      obtain ⟨middle,dropped,first,fewer,dropping⟩ := dropPair_abstracts (sound.perm List.perm_middle) abstracts
      obtain ⟨kept,later,after,ids',done,does,second,keeps,abstracts⟩ := ih front middle _ fewer dropping
      have still := first.names.map_named fewer (fun _ => List.mem_append_right front)
      refine ⟨kept,told++later,after,ids',?_,?_,first.trans second,keeps,abstracts⟩
      · rw [dropped]
        simp only [Bool.false_eq_true,if_false,Option.bind_some,done]
      · rw [←still,does]

theorem flushPair_refines (sound : Sound space space.hot) (refines : Refines radius2 space ids) :
    ∃ after told ids', flushPair (exact radius2) space = some (after,told) ∧ Aoi.flushPair ids = (ids',told) ∧
      Sound after after.hot ∧ Refines radius2 after ids' := by
  obtain ⟨kept,told,after,ids',done,does,_,keeps,abstracts⟩ := flushPairs_abstracts space.hot [] space ids sound refines.toAbstracts
  refine ⟨{after with hot:=kept},told,{ids' with hot:=kept.map (named after)},?_,?_,?_,⟨?_,rfl⟩⟩
  · unfold flushPair
    simp only [done,Option.bind_eq_bind,Option.bind_some]
  · unfold Aoi.flushPair
    rw [refines.hot,does]
  · exact ⟨keeps.ref,keeps.live,keeps.aoiCount,keeps.mapped,keeps.there,keeps.pairHash,keeps.distinct⟩
  · exact ⟨abstracts.bodies,abstracts.pairHash,abstracts.maxAoiCount,abstracts.radius2⟩

end Flush

section Push

def namedSets (name : Pointer → Nat) (sets : Sets) : Sets :=
  ⟨sets.watcherStatic.map name,sets.markerStatic.map name,sets.watcherMove.map name,sets.markerMove.map name⟩

theorem set_idAt (found : space.heap.lookup p = some obj) (body : Object) : idAt (space.set p ⟨obj.id,body⟩) = idAt space := by
  funext j
  unfold idAt
  rw [set_lookup]
  split
  · rename_i here
    rw [here,found]
    rfl
  · rfl

-- An object with the same counters; the pairs are as they were.
theorem set_refines (mapped : Mapped space) (refines : Refines radius2 space ids) (found : space.heap.lookup p = some obj) (body : Object) :
    Refines radius2 (space.set p ⟨obj.id,body⟩) {ids with object:=ids.object.insert obj.id body} := by
  have same : named (space.set p ⟨obj.id,body⟩) = named space := by
    funext q
    unfold named
    rw [set_idAt found]
  refine ⟨⟨set_bodies mapped refines.bodies found body,?_,refines.maxAoiCount,refines.radius2⟩,?_⟩
  · rw [same]
    exact refines.pairHash
  · rw [same]
    exact refines.hot

theorem setPush_refines (sets : Sets) (mapped : Mapped space) (refines : Refines radius2 space ids)
    (found : space.heap.lookup p = some obj) :
    ∃ sets' after objects', setPush (sets,space) p = some (sets',after) ∧
      Aoi.setPush (namedSets (idAt space) sets,ids.object) (idAt space p) = (namedSets (idAt space) sets',objects') ∧
      idAt after = idAt space ∧ Refines radius2 after {ids with object:=objects'} := by
  have name := idAt_found found
  have still := set_idAt found {obj.body with mode.move:=false}
  have after := set_refines mapped refines found {obj.body with mode.move:=false}
  unfold setPush Aoi.setPush
  simp only [found,Option.bind_eq_bind,Option.bind_some,name,refines.bodies.query found]
  refine ⟨_,_,_,rfl,Prod.ext ?_ rfl,?_,?_⟩
  · unfold namedSets
    cases obj.body.mode.watcher <;> cases obj.body.mode.marker <;> cases obj.body.mode.move <;>
      simp only [Bool.false_eq_true,if_true,if_false,List.map_append,List.map_cons,List.map_nil,name]
  · split
    · exact still
    · rfl
  · split
    · exact after
    · exact refines

theorem pushes_refines (pointers : List Pointer) (sets : Sets) (space : Space) (ids : Aoi.Space) (sound : Sound space pairs)
    (refines : Refines radius2 space ids) (there : ∀ p ∈ pointers, (space.heap.lookup p).isSome = true) :
    ∃ sets' after objects', pointers.foldlM setPush (sets,space) = some (sets',after) ∧
      (pointers.map (idAt space)).foldl Aoi.setPush (namedSets (idAt space) sets,ids.object) = (namedSets (idAt space) sets',objects') ∧
      idAt after = idAt space ∧ Refines radius2 after {ids with object:=objects'} := by
  induction pointers generalizing sets space ids with
  | nil => exact ⟨sets,space,ids.object,rfl,rfl,rfl,refines⟩
  | cons p rest ih =>
    obtain ⟨mine,others⟩ := List.forall_mem_cons.mp there
    obtain ⟨obj,found⟩ := Option.isSome_iff_exists.mp mine
    obtain ⟨sets',middle,objects',first,one,still,refines⟩ := setPush_refines sets sound.mapped refines found
    obtain ⟨_,_,first',_,keeps,same,_⟩ := setPush_sound sets sound found
    rw [first] at first'
    cases first'
    obtain ⟨last,after,objects'',done,does,still',refines⟩ := ih sets' middle _ keeps refines
      (fun j mem => by rw [same]; exact others j mem)
    rw [still] at does still'
    refine ⟨last,after,objects'',?_,?_,still',refines⟩
    · rw [List.foldlM_cons,first]
      exact done
    · rw [List.map_cons,List.foldl_cons,one]
      exact does

-- The addresses in the id map are the ids of the other.
theorem mapForeach_perm (order : Order Pointer) (mapped : Mapped space) (bodies : Bodies space objects) :
    ((mapForeach order space).map (idAt space)).Perm objects.keys := by
  have keys : (space.object.entries.map Sigma.snd).map (idAt space) = space.object.keys := by
    rw [List.map_map]
    refine List.map_congr_left ?_
    intro entry mem
    have known : space.object.lookup entry.1 = some entry.2 := AList.mem_lookup_iff.mpr mem
    obtain ⟨obj,found,name⟩ := (mapped _ _).mp known
    exact (idAt_found found).trans name
  have perm := (order.perm (space.object.entries.map Sigma.snd)).map (idAt space)
  rw [keys] at perm
  refine perm.trans ((List.perm_ext_iff_of_nodup space.object.keys_nodup objects.keys_nodup).mpr ?_)
  intro id
  rw [←AList.mem_keys,←AList.mem_keys,←AList.lookup_isSome,←AList.lookup_isSome,Option.isSome_iff_exists,Option.isSome_iff_exists]
  constructor
  · rintro ⟨p,known⟩
    obtain ⟨obj,found,rfl⟩ := (mapped _ _).mp known
    exact ⟨obj.body,bodies.found found⟩
  · rintro ⟨body,known⟩
    obtain ⟨p,found⟩ := (bodies id body).mp known
    exact ⟨p,(mapped _ _).mpr ⟨_,found,rfl⟩⟩

theorem pushAll_refines (order : Order Pointer) (sound : Sound space pairs) (refines : Refines radius2 space ids) :
    ∃ order' : Order Nat, ∃ sets after objects', pushAll order space = some (sets,after) ∧
      (order'.visit ids.object.keys).foldl Aoi.setPush (⟨[],[],[],[]⟩,ids.object) = (namedSets (idAt space) sets,objects') ∧
      idAt after = idAt space ∧ Refines radius2 after {ids with object:=objects'} := by
  have live : ∀ p ∈ mapForeach order space, (space.heap.lookup p).isSome = true := by
    intro p mem
    obtain ⟨entry,inside,rfl⟩ := List.mem_map.mp (order.mem_visit.mp mem)
    have known : space.object.lookup entry.1 = some entry.2 := AList.mem_lookup_iff.mpr inside
    obtain ⟨obj,found,_⟩ := (sound.mapped _ _).mp known
    exact Option.isSome_iff_exists.mpr ⟨obj,found⟩
  have perm := mapForeach_perm order sound.mapped refines.bodies
  obtain ⟨sets,after,objects',done,does,still,refines⟩ := pushes_refines (mapForeach order space) ⟨[],[],[],[]⟩ space ids sound refines live
  refine ⟨.seen perm,sets,after,objects',done,?_,still,refines⟩
  rw [Order.seen_visit]
  exact does

end Push

section Generate

theorem gains_bodies (mapped : Mapped space) (bodies : Bodies space objects) (apart : w ≠ m) (watcher : space.heap.lookup w = some obj)
    (marker : space.heap.lookup m = some cell) (heap : ∀ j, after.heap.lookup j = (space.heap.lookup j).map (gains w m j)) :
    Bodies after ((objects.insert obj.id {obj.body with ref:=obj.body.ref+1, aoiCount:=obj.body.aoiCount+1}).insert cell.id
      {cell.body with ref:=cell.body.ref+1}) := by
  have other : obj.id ≠ cell.id := fun same => apart ((same_iff mapped marker watcher).mpr same)
  refine bodies.bind (f:=fun j cell => some (gains w m j cell)) (g:=fun k body => some (gains obj.id cell.id k ⟨k,body⟩).body) ?_ ?_ ?_
  · intro j
    rw [heap]
    cases space.heap.lookup j <;> rfl
  · intro k
    by_cases isMarker : k = cell.id
    · subst isMarker
      rw [AList.lookup_insert,bodies.found marker]
      simp [gains,other.symm]
    · rw [AList.lookup_insert_ne isMarker]
      by_cases isWatcher : k = obj.id
      · subst isWatcher
        rw [AList.lookup_insert,bodies.found watcher]
        simp [gains]
      · rw [AList.lookup_insert_ne isWatcher]
        simp [gains,isMarker,isWatcher]
  · intro j k body there
    have sameW := same_iff mapped watcher there
    have sameM := same_iff mapped marker there
    dsimp only at sameW sameM
    unfold gains
    simp only [sameW,sameM,Option.map_some]
    split
    · rfl
    · split <;> rfl

theorem addPair_refines (sound : Sound space space.hot) (refines : Refines radius2 space ids) (apart : w ≠ m)
    (watcher : space.heap.lookup w = some obj) (marker : space.heap.lookup m = some cell) :
    ∃ after, addPair w m (pairKey obj.id cell.id) space = some after ∧ idAt after = idAt space ∧
      Refines radius2 after (Aoi.addPair obj.id cell.id ids) := by
  obtain ⟨after,done,_,hot,hash,most,heap⟩ := addPair_done apart watcher marker (pairKey obj.id cell.id)
  have still : idAt after = idAt space := by
    funext j
    unfold idAt
    rw [heap]
    cases space.heap.lookup j with
    | none => rfl
    | some old => exact (gains_counts w m j old).1
  have name : named after = named space := by
    unfold named
    rw [still]
  have new : named space ⟨pairKey obj.id cell.id,w,m⟩ = ⟨pairKey obj.id cell.id,obj.id,cell.id⟩ := by
    rw [named,idAt_found watcher,idAt_found marker]
  refine ⟨after,done,still,⟨?_,?_,?_,refines.radius2⟩,?_⟩
  · unfold Aoi.addPair
    rw [refines.bodies.query watcher,refines.bodies.query marker]
    exact gains_bodies sound.mapped refines.bodies apart watcher marker heap
  · rw [name,hash,List.map_cons,new,←refines.pairHash]
    rfl
  · rw [most]
    exact refines.maxAoiCount
  · rw [name,hot,List.map_cons,new,←refines.hot]
    rfl

theorem findPair_named (refines : Refines radius2 space ids) (watcher marker : Cell) :
    (findPair space watcher marker).isSome = ids.pairHash.any (fun p => p.key = pairKey watcher.id marker.id) := by
  rw [refines.pairHash,List.any_map,findPair,List.isSome_find?]
  rfl

theorem genPair_refines (sound : Sound space space.hot) (refines : Refines radius2 space ids)
    (watcher : (space.heap.lookup w).isSome = true) (marker : (space.heap.lookup m).isSome = true) (calls : List Callback) :
    ∃ after later ids', genPair (exact radius2) (space,calls) (w,m) = some (after,later) ∧
      Aoi.genPair (ids,calls) (idAt space w,idAt space m) = (ids',later) ∧ idAt after = idAt space ∧ Refines radius2 after ids' := by
  obtain ⟨obj,watcher⟩ := Option.isSome_iff_exists.mp watcher
  obtain ⟨cell,marker⟩ := Option.isSome_iff_exists.mp marker
  have same : w = m ↔ obj.id = cell.id := same_iff sound.mapped marker watcher
  unfold genPair Aoi.genPair exact
  simp only [watcher,marker,Option.bind_eq_bind,Option.bind_some,idAt_found watcher,idAt_found marker,refines.bodies.query watcher,
    refines.bodies.query marker,refines.maxAoiCount,refines.radius2,findPair_named refines,same,decide_eq_true_eq]
  split
  · exact ⟨space,calls,ids,rfl,rfl,rfl,refines⟩
  · rename_i free
    rw [not_or,←same] at free
    split
    · exact ⟨space,calls,ids,rfl,rfl,rfl,refines⟩
    · split
      · exact ⟨space,calls,ids,rfl,rfl,rfl,refines⟩
      · obtain ⟨after,done,still,refines⟩ := addPair_refines sound refines free.1 watcher marker
        refine ⟨after,_,_,?_,rfl,still,refines⟩
        rw [done]
        rfl

theorem genPairs_refines (candidates : List (Pointer × Pointer)) (space : Space) (ids : Aoi.Space) (calls : List Callback)
    (sound : Sound space space.hot) (refines : Refines radius2 space ids)
    (there : ∀ ids ∈ candidates, (space.heap.lookup ids.1).isSome = true ∧ (space.heap.lookup ids.2).isSome = true) :
    ∃ after later ids', candidates.foldlM (genPair (exact radius2)) (space,calls) = some (after,later) ∧
      (candidates.map (Prod.map (idAt space) (idAt space))).foldl Aoi.genPair (ids,calls) = (ids',later) ∧ Refines radius2 after ids' := by
  induction candidates generalizing space ids calls with
  | nil => exact ⟨space,calls,ids,rfl,rfl,refines⟩
  | cons pair rest ih =>
    obtain ⟨w,m⟩ := pair
    obtain ⟨⟨watcher,marker⟩,others⟩ := List.forall_mem_cons.mp there
    obtain ⟨middle,told,ids',first,one,still,refines⟩ := genPair_refines sound refines watcher marker calls
    obtain ⟨_,_,first',keeps,_,_,same⟩ := genPair_sound (exact radius2) sound watcher marker calls
    rw [first] at first'
    cases first'
    obtain ⟨after,later,ids'',done,does,refines⟩ := ih middle ids' told keeps refines
      (fun pair mem => by rw [same,same]; exact others pair mem)
    refine ⟨after,later,ids'',?_,?_,refines⟩
    · rw [List.foldlM_cons,first]
      exact done
    · rw [still] at does
      rw [List.map_cons,List.foldl_cons,Prod.map_apply,one]
      exact does

end Generate

section Message

theorem candidates_named (name : Pointer → Nat) (sets : Sets) :
    candidates (namedSets name sets) = (candidates sets).map (Prod.map name name) := by
  have product (left right : List Pointer) : (left.map name).product (right.map name) = (left.product right).map (Prod.map name name) := by
    unfold List.product
    rw [List.flatMap_map,List.map_flatMap]
    simp only [List.map_map]
    rfl
  simp only [candidates,namedSets,product,List.map_append]

theorem aoiMessage_refines (order : Order Pointer) (sound : Sound space space.hot) (refines : Refines radius2 space ids) :
    ∃ order' : Order Nat, ∃ after calls ids', aoiMessage (exact radius2) order space = some (after,calls) ∧
      Aoi.aoiMessage order' ids = (ids',calls) ∧ Refines radius2 after ids' := by
  obtain ⟨flushed,told,ids',flush,does,sound',refines⟩ := flushPair_refines sound refines
  obtain ⟨order',sets,pushed,objects,push,pushes,still,refines⟩ := pushAll_refines order sound' refines
  obtain ⟨_,_,_,_,stages⟩ := messaged (exact radius2) order sound
  have flush' := stages.flush
  rw [flush] at flush'
  cases flush'
  have push' := stages.push
  rw [push] at push'
  cases push'
  obtain ⟨after,calls,ids'',done,generates,refines⟩ := genPairs_refines (candidates sets) pushed _ told stages.sound refines stages.there
  refine ⟨order',after,calls,ids'',stages.runs.trans done,?_,refines⟩
  rw [still,←candidates_named] at generates
  unfold Aoi.aoiMessage
  rw [does]
  dsimp only
  rw [pushes]
  simp only [candidates,List.foldl_append] at generates
  exact Prod.ext (congrArg Prod.fst generates) (congrArg Prod.snd generates)

end Message

section Update

-- Only what a table answers counts.
theorem Refines.write (refines : Refines radius2 space {ids with object:=objects}) (same : ∀ k, later.lookup k = objects.lookup k) :
    Refines radius2 space {ids with object:=later} :=
  ⟨⟨fun id body => by rw [same]; exact refines.bodies id body,refines.pairHash,refines.maxAoiCount,refines.radius2⟩,refines.hot⟩

theorem insert_twice (objects : Table Nat Object) (id : Nat) (old new : Object) (k : Nat) :
    (objects.insert id new).lookup k = ((objects.insert id old).insert id new).lookup k := by
  by_cases here : k = id
  · rw [here,AList.lookup_insert,AList.lookup_insert]
  · rw [AList.lookup_insert_ne here,AList.lookup_insert_ne here,AList.lookup_insert_ne here]

-- A new object takes an address and an id that are not in use.
theorem new_bodies (bodies : Bodies space objects) (free : space.heap.lookup p = none)
    (nobody : ∀ j body, space.heap.lookup j ≠ some ⟨id,body⟩) (new : Object) : Bodies (space.set p ⟨id,new⟩) (objects.insert id new) := by
  intro k body
  by_cases here : k = id
  · subst here
    rw [AList.lookup_insert]
    constructor
    · intro same
      cases same
      exact ⟨p,(set_lookup ..).trans (if_pos rfl)⟩
    · rintro ⟨j,there⟩
      rcases set_found there with ⟨_,same⟩ | ⟨_,found⟩
      · cases same
        rfl
      · exact absurd found (nobody j body)
  · rw [AList.lookup_insert_ne here,bodies k body]
    constructor
    · rintro ⟨j,found⟩
      have away : j ≠ p := by
        rintro rfl
        rw [free] at found
        cases found
      exact ⟨j,(set_lookup ..).trans ((if_neg away).trans found)⟩
    · rintro ⟨j,there⟩
      rcases set_found there with ⟨_,same⟩ | ⟨_,found⟩
      · cases same
        exact absurd rfl here
      · exact ⟨j,found⟩

theorem new_refines (sound : Sound space space.hot) (refines : Refines radius2 space ids) (free : space.heap.lookup p = none)
    (unknown : space.object.lookup id = none) :
    ids.object.lookup id = none ∧ Refines radius2 {space.set p ⟨id,Aoi.newObject⟩ with object:=space.object.insert id p}
      {ids with object:=ids.object.insert id Aoi.newObject} := by
  have nobody (j body) : space.heap.lookup j ≠ some ⟨id,body⟩ := by
    intro there
    have known := (sound.mapped id j).mpr ⟨_,there,rfl⟩
    rw [unknown] at known
    cases known
  have missing : ids.object.lookup id = none := by
    cases there : ids.object.lookup id with
    | none => rfl
    | some body =>
      obtain ⟨j,found⟩ := (refines.bodies id body).mp there
      exact absurd found (nobody j body)
  have still {j : Pointer} {obj : Cell} (found : space.heap.lookup j = some obj) :
      idAt {space.set p ⟨id,Aoi.newObject⟩ with object:=space.object.insert id p} j = idAt space j := by
    have away : j ≠ p := by
      rintro rfl
      rw [free] at found
      cases found
    have there := (set_lookup space p ⟨id,Aoi.newObject⟩ j).trans ((if_neg away).trans found)
    exact (idAt_found there).trans (idAt_found found).symm
  have names {q : Pair} (mem : q ∈ space.hot) :
      named {space.set p ⟨id,Aoi.newObject⟩ with object:=space.object.insert id p} q = named space q := by
    obtain ⟨watcher,marker,foundW,foundM,_⟩ := sound.there q mem
    exact congrArg₂ (Aoi.Pair.mk q.key) (still foundW) (still foundM)
  refine ⟨missing,⟨new_bodies refines.bodies free nobody _,?_,refines.maxAoiCount,refines.radius2⟩,?_⟩
  · rw [refines.pairHash]
    exact (List.map_congr_left (fun q mem => names (sound.pairHash.mem_iff.mp mem))).symm
  · rw [refines.hot]
    exact (List.map_congr_left (fun q mem => names mem)).symm

-- An object that is looked up is there, under its id.
theorem mapQuery_refines (allocator : Allocator) (sound : Sound space space.hot) (refines : Refines radius2 space ids) (id : Nat) :
    ∃ p queried body, mapQuery allocator space id = (p,queried) ∧ queried.heap.lookup p = some ⟨id,body⟩ ∧
      Aoi.query ids.object id = body ∧ Refines radius2 queried {ids with object:=ids.object.insert id body} := by
  unfold mapQuery
  cases known : space.object.lookup id with
  | some p =>
    obtain ⟨obj,found,rfl⟩ := (sound.mapped id p).mp known
    refine ⟨p,space,obj.body,rfl,found,refines.bodies.query found,?_⟩
    refine refines.write ?_
    intro k
    by_cases here : k = obj.id
    · rw [here,AList.lookup_insert,refines.bodies.found found]
    · exact AList.lookup_insert_ne here
  | none =>
    have free : space.heap.lookup (allocator.alloc space.heap) = none := AList.lookup_eq_none.mpr (allocator.fresh _)
    obtain ⟨missing,entered⟩ := new_refines sound refines free known
    refine ⟨_,_,_,rfl,(set_lookup ..).trans (if_pos rfl),?_,entered⟩
    rw [Aoi.query,missing]
    rfl

theorem aoiUpdate_refines (allocator : Allocator) (sound : Sound space space.hot) (refines : Refines radius2 space ids) (id : Nat)
    (modestring : List Char) (rtype : Nat) (pos tpos : Position) :
    ∃ after, aoiUpdate (exact radius2) allocator space id modestring rtype pos tpos = some after ∧
      Refines radius2 after (Aoi.aoiUpdate ids id modestring rtype pos tpos) := by
  obtain ⟨p,queried,body,query,found,here,refines⟩ := mapQuery_refines allocator sound refines id
  obtain ⟨_,_,_,query',_,sound,_⟩ := mapQuery_sound allocator sound id
  rw [query] at query'
  cases query'
  unfold aoiUpdate Aoi.aoiUpdate
  rw [query,here]
  simp only [found,Option.bind_eq_bind,Option.bind_some]
  have written (new : Object) : Refines radius2 (queried.set p ⟨id,new⟩) {ids with object:=ids.object.insert id new} :=
    (set_refines sound.mapped refines found new).write (insert_twice ids.object id body new)
  cases readMode modestring false false with
  | none =>
    cases drop : body.mode.drop with
    | true => exact ⟨queried,rfl,refines⟩
    | false =>
      obtain ⟨after,done,keeps,_,_⟩ := leave_sound sound found drop
      have left := written (leave body)
      have mapped : Mapped (queried.set p ⟨id,leave body⟩) := set_mapped sound.mapped found rfl
      have there := (set_lookup queried p ⟨id,leave body⟩ p).trans (if_pos rfl)
      obtain ⟨_,done',frame,hash,_,heap⟩ := dropObject_done mapped there
      rw [done] at done'
      cases done'
      have still := frame.names.map_named keeps (fun _ mem => mem)
      refine ⟨after,done,⟨dropObject_bodies mapped left.bodies there heap,?_,?_,left.radius2⟩,?_⟩
      · rw [frame.names.map_named keeps (fun _ => keeps.pairHash.mem_iff.mp),hash]
        exact left.pairHash
      · rw [frame.maxAoiCount]
        exact left.maxAoiCount
      · rw [still,frame.hot]
        exact left.hot
  | some modes => exact ⟨_,rfl,written _⟩

end Update

section Run

-- What a call does to the objects under their ids, in some order of theirs.
def StepIds (ids : Aoi.Space) (call : Call) (ids' : Aoi.Space) : Prop :=
  match call with
  | .update id modestring rtype pos tpos => ids' = Aoi.aoiUpdate ids id modestring rtype pos tpos
  | .message _ => ∃ order : Order Nat, ids' = (Aoi.aoiMessage order ids).1

theorem step_refines (allocator : Allocator) (sound : Sound space space.hot) (refines : Refines radius2 space ids) (call : Call) :
    ∃ after ids', step allocator (exact radius2) space call = some after ∧ StepIds ids call ids' ∧
      Sound after after.hot ∧ Refines radius2 after ids' := by
  obtain ⟨_,done',keeps,_⟩ := step_sound allocator (exact radius2) sound call
  cases call with
  | update id modestring rtype pos tpos =>
    obtain ⟨after,done,refines⟩ := aoiUpdate_refines allocator sound refines id modestring rtype pos tpos
    rw [step,done] at done'
    cases done'
    exact ⟨_,_,done,rfl,keeps,refines⟩
  | message order =>
    obtain ⟨order',after,calls,ids',done,does,refines⟩ := aoiMessage_refines order sound refines
    rw [step,done] at done'
    obtain rfl : after = _ := Option.some_inj.mp done'
    refine ⟨_,ids',?_,⟨order',by rw [does]⟩,keeps,refines⟩
    rw [step,done]
    rfl

theorem steps_refine (allocator : Allocator) (calls : List Call) (sound : Sound space space.hot) (refines : Refines radius2 space ids) :
    ∃ after ids', calls.foldlM (step allocator (exact radius2)) space = some after ∧ Runs StepIds ids calls ids' ∧
      Sound after after.hot ∧ Refines radius2 after ids' := by
  induction calls generalizing space ids with
  | nil => exact ⟨space,ids,rfl,.done,sound,refines⟩
  | cons call rest ih =>
    obtain ⟨middle,ids',first,one,keeps,refines⟩ := step_refines allocator sound refines call
    obtain ⟨after,ids'',done,others,last,refines⟩ := ih keeps refines
    refine ⟨after,ids'',?_,.more one others,last,refines⟩
    rw [List.foldlM_cons,first]
    exact done

theorem empty_refines (maxAoiCount : Nat) (radius2 : ℚ) : Refines radius2 (emptySpace maxAoiCount) ⟨∅,[],[],maxAoiCount,radius2⟩ := by
  refine ⟨⟨?_,rfl,rfl,rfl⟩,rfl⟩
  intro id body
  constructor
  · intro found
    cases found
  · rintro ⟨p,found⟩
    cases found

-- Every run over addresses is one over ids.
theorem run_refines (allocator : Allocator) (maxAoiCount : Nat) (radius2 : ℚ) (calls : List Call) :
    ∃ space ids, run allocator (exact radius2) maxAoiCount calls = some space ∧
      Runs StepIds ⟨∅,[],[],maxAoiCount,radius2⟩ calls ids ∧ Refines radius2 space ids := by
  obtain ⟨space,ids,done,runs,_,refines⟩ :=
    steps_refine allocator calls (empty_sound maxAoiCount) (empty_refines maxAoiCount radius2)
  exact ⟨space,ids,done,runs,refines⟩

end Run
end OriginGame.AoiHeap
