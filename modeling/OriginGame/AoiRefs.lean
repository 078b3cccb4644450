import OriginGame.AoiHeap

namespace OriginGame.AoiHeap
open Aoi (Position Object Callback Sets changeMode readMode leave call pairKey)

variable {space after : Space} {pairs front rest : List Pair} {q : Pair} {p w m : Pointer} {id : Nat} {cell obj : Cell}
variable {allocator : Allocator} {distances : Distances}

def involved (p : Pointer) (pairs : List Pair) : Nat := pairs.countP (fun q => q.watcher = p ∨ q.marker = p)

def watched (p : Pointer) (pairs : List Pair) : Nat := pairs.countP (fun q => q.watcher = p)

-- The reference an object has of itself.
def own (cell : Cell) : Nat := if cell.body.mode.drop then 0 else 1

-- The id map has the objects of the heap, each under its id.
def Mapped (space : Space) : Prop := ∀ id p, space.object.lookup id = some p ↔ ∃ obj, space.heap.lookup p = some obj ∧ obj.id = id

-- The counters fit the pairs, which are those of the hash.
structure Sound (space : Space) (pairs : List Pair) : Prop where
  ref : ∀ {p obj}, space.heap.lookup p = some obj → obj.body.ref = involved p pairs+own obj
  live : ∀ {p obj}, space.heap.lookup p = some obj → 0 < obj.body.ref
  aoiCount : ∀ {p obj}, space.heap.lookup p = some obj → obj.body.aoiCount = watched p pairs ∧ obj.body.aoiCount ≤ space.maxAoiCount
  mapped : Mapped space
  there : ∀ q ∈ pairs, ∃ watcher marker, space.heap.lookup q.watcher = some watcher ∧ space.heap.lookup q.marker = some marker ∧
    q.watcher ≠ q.marker ∧ q.key = pairKey watcher.id marker.id
  pairHash : space.pairHash.Perm pairs
  distinct : (pairs.map Pair.key).Nodup

section Counts

theorem involved_cons (p : Pointer) (q : Pair) (pairs : List Pair) :
    involved p (q::pairs) = involved p pairs+if q.watcher = p ∨ q.marker = p then 1 else 0 := by
  simp only [involved,List.countP_cons,decide_eq_true_eq]

theorem watched_cons (p : Pointer) (q : Pair) (pairs : List Pair) :
    watched p (q::pairs) = watched p pairs+if q.watcher = p then 1 else 0 := by
  simp only [watched,List.countP_cons,decide_eq_true_eq]

theorem involved_mem (mem : q ∈ pairs) (part : q.watcher = p ∨ q.marker = p) : 0 < involved p pairs :=
  List.countP_pos_iff.mpr ⟨q,mem,decide_eq_true part⟩

theorem Sound.perm (sound : Sound space pairs) (same : pairs.Perm rest) : Sound space rest where
  ref found := by
    rw [sound.ref found,involved,same.countP_eq]
    rfl
  live := sound.live
  aoiCount found := by
    obtain ⟨count,few⟩ := sound.aoiCount found
    refine ⟨?_,few⟩
    rw [count,watched,same.countP_eq]
    rfl
  mapped := sound.mapped
  there q mem := sound.there q (same.mem_iff.mpr mem)
  pairHash := sound.pairHash.trans same
  distinct := (same.map _).nodup_iff.mp sound.distinct

-- The ends of pairs, when what they hold stays and keeps its id.
theorem Sound.ends (sound : Sound space pairs) (part : ∀ q ∈ rest, q ∈ pairs)
    (stays : ∀ p obj, space.heap.lookup p = some obj → 0 < involved p rest → ∃ next, after.heap.lookup p = some next ∧ next.id = obj.id) :
    ∀ q ∈ rest, ∃ watcher marker, after.heap.lookup q.watcher = some watcher ∧ after.heap.lookup q.marker = some marker ∧
      q.watcher ≠ q.marker ∧ q.key = pairKey watcher.id marker.id := by
  intro q mem
  obtain ⟨watcher,marker,foundW,foundM,apart,key⟩ := sound.there q (part q mem)
  obtain ⟨watcher',thereW,nameW⟩ := stays _ _ foundW (involved_mem mem (.inl rfl))
  obtain ⟨marker',thereM,nameM⟩ := stays _ _ foundM (involved_mem mem (.inr rfl))
  refine ⟨watcher',marker',thereW,thereM,apart,?_⟩
  rw [nameW,nameM]
  exact key

end Counts

section Drop

theorem set_lookup (space : Space) (p : Pointer) (cell : Cell) (j : Pointer) :
    (space.set p cell).heap.lookup j = if j = p then some cell else space.heap.lookup j := by
  unfold Space.set
  split
  · rename_i same
    rw [same,AList.lookup_insert]
  · rename_i other
    rw [AList.lookup_insert_ne other]

theorem set_found {j : Pointer} {other : Cell} (there : (space.set p cell).heap.lookup j = some other) :
    j = p ∧ other = cell ∨ j ≠ p ∧ space.heap.lookup j = some other := by
  rw [set_lookup] at there
  split at there
  · cases there
    exact .inl ⟨‹j = p›,rfl⟩
  · exact .inr ⟨‹j ≠ p›,there⟩

theorem set_mapped (mapped : Mapped space) (found : space.heap.lookup p = some obj) (same : cell.id = obj.id) :
    Mapped (space.set p cell) := by
  intro id j
  rw [set_lookup]
  change space.object.lookup id = some j ↔ _
  rw [mapped id j]
  split
  · rename_i here
    subst here
    simp [found,same]
  · rfl

-- One reference less; none when it was the last.
def release (obj : Cell) : Option Cell := if obj.body.ref-1 ≤ 0 then none else some {obj with body.ref:=obj.body.ref-1}

theorem erase_mapped (mapped : Mapped space) (found : space.heap.lookup p = some obj) :
    Mapped {space with object:=space.object.erase obj.id, heap:=space.heap.erase p} := by
  intro id j
  dsimp only
  have mine : space.object.lookup obj.id = some p := (mapped _ _).mpr ⟨obj,found,rfl⟩
  by_cases same : id = obj.id
  · subst same
    rw [AList.lookup_erase]
    refine ⟨fun h => (by cases h),?_⟩
    rintro ⟨cell,there,name⟩
    obtain ⟨other,there⟩ := Table.found_erase there
    have again := (mapped _ _).mpr ⟨cell,there,name⟩
    rw [mine] at again
    cases again
    exact absurd rfl other
  · rw [AList.lookup_erase_ne same,mapped id j]
    constructor
    · rintro ⟨cell,there,name⟩
      refine ⟨cell,(AList.lookup_erase_ne ?_).trans there,name⟩
      rintro rfl
      rw [found] at there
      cases there
      exact same name.symm
    · rintro ⟨cell,there,name⟩
      exact ⟨cell,(Table.found_erase there).2,name⟩

-- No object comes in and none changes its id.
def Names (space after : Space) : Prop :=
  ∀ p obj, after.heap.lookup p = some obj → ∃ old, space.heap.lookup p = some old ∧ old.id = obj.id

theorem Names.refl (space : Space) : Names space space := fun _ obj found => ⟨obj,found,rfl⟩

theorem Names.trans {last : Space} (first : Names space after) (second : Names after last) : Names space last := by
  intro p obj found
  obtain ⟨middle,there,same⟩ := second p obj found
  obtain ⟨old,before,name⟩ := first p middle there
  exact ⟨old,before,name.trans same⟩

theorem set_names (found : space.heap.lookup p = some obj) (same : cell.id = obj.id) : Names space (space.set p cell) := by
  intro j other there
  rcases set_found there with ⟨rfl,rfl⟩ | ⟨_,old⟩
  · exact ⟨obj,found,same.symm⟩
  · exact ⟨other,old,rfl⟩

-- What a call leaves alone.
structure Frame (space after : Space) : Prop where
  hot : after.hot = space.hot
  maxAoiCount : after.maxAoiCount = space.maxAoiCount
  names : Names space after

theorem Frame.refl (space : Space) : Frame space space := ⟨rfl,rfl,.refl space⟩

theorem Frame.trans {last : Space} (first : Frame space after) (second : Frame after last) : Frame space last :=
  ⟨second.hot.trans first.hot,second.maxAoiCount.trans first.maxAoiCount,first.names.trans second.names⟩

theorem dropObject_done (mapped : Mapped space) (found : space.heap.lookup p = some obj) :
    ∃ after, dropObject p space = some after ∧ Frame space after ∧ after.pairHash = space.pairHash ∧ Mapped after ∧
      ∀ j, after.heap.lookup j = if j = p then release obj else space.heap.lookup j := by
  unfold dropObject release
  simp only [found,Option.bind_eq_bind,Option.bind_some]
  split
  · refine ⟨_,rfl,⟨rfl,rfl,fun j other there => ⟨other,(Table.found_erase there).2,rfl⟩⟩,rfl,erase_mapped mapped found,?_⟩
    intro j
    split
    · rename_i same
      rw [same,AList.lookup_erase]
    · rename_i other
      exact AList.lookup_erase_ne other
  · refine ⟨_,rfl,⟨rfl,rfl,set_names found rfl⟩,rfl,set_mapped mapped found rfl,?_⟩
    intro j
    exact set_lookup ..

-- What the end of a pair takes from an object.
def loses (q : Pair) (p : Pointer) (obj : Cell) : Option Cell :=
  if p = q.watcher then release {obj with body.aoiCount:=obj.body.aoiCount-1}
  else if p = q.marker then release obj else some obj

theorem dropPair_done (mapped : Mapped space) (watcher : space.heap.lookup q.watcher = some obj)
    (marker : space.heap.lookup q.marker = some cell) (apart : q.watcher ≠ q.marker) :
    ∃ after, dropPair q space = some after ∧ Frame space after ∧ after.pairHash = space.pairHash.erase q ∧ Mapped after ∧
      ∀ j, after.heap.lookup j = (space.heap.lookup j).bind (loses q j) := by
  have start : Mapped {space with pairHash:=space.pairHash.erase q} := mapped
  have counted : Mapped (({space with pairHash:=space.pairHash.erase q} : Space).set q.watcher
      {obj with body.aoiCount:=obj.body.aoiCount-1}) := set_mapped start watcher rfl
  have fewer := set_lookup {space with pairHash:=space.pairHash.erase q} q.watcher {obj with body.aoiCount:=obj.body.aoiCount-1}
  obtain ⟨middle,first,frame,hash,mapped,heap⟩ := dropObject_done counted ((fewer q.watcher).trans (if_pos rfl))
  have still : middle.heap.lookup q.marker = some cell := by
    rw [heap,if_neg apart.symm,fewer,if_neg apart.symm]
    exact marker
  obtain ⟨after,second,frame',hash',mapped,heap'⟩ := dropObject_done mapped still
  have begins : Frame space (({space with pairHash:=space.pairHash.erase q} : Space).set q.watcher
      {obj with body.aoiCount:=obj.body.aoiCount-1}) := ⟨rfl,rfl,set_names watcher rfl⟩
  refine ⟨after,?_,(begins.trans frame).trans frame',hash'.trans hash,mapped,?_⟩
  · unfold dropPair
    simp only [watcher,Option.bind_eq_bind,Option.bind_some,first,second]
  · intro j
    rw [heap',heap,fewer]
    by_cases isMarker : j = q.marker
    · subst isMarker
      rw [if_pos rfl,marker,Option.bind_some,loses,if_neg apart.symm,if_pos rfl]
    · by_cases isWatcher : j = q.watcher
      · subst isWatcher
        rw [if_neg isMarker,if_pos rfl,watcher,Option.bind_some,loses,if_pos rfl]
      · rw [if_neg isMarker,if_neg isWatcher,if_neg isWatcher]
        cases space.heap.lookup j with
        | none => rfl
        | some other => rw [Option.bind_some,loses,if_neg isWatcher,if_neg isMarker]

theorem release_some (released : release obj = some cell) : cell = {obj with body.ref:=obj.body.ref-1} ∧ 0 < cell.body.ref := by
  unfold release at released
  split at released
  · cases released
  · cases released
    refine ⟨rfl,?_⟩
    dsimp only
    omega

theorem loses_some (lost : loses q p obj = some cell) (live : 0 < obj.body.ref) :
    cell.id = obj.id ∧ own cell = own obj ∧ cell.body.ref = obj.body.ref-(if q.watcher = p ∨ q.marker = p then 1 else 0) ∧
      cell.body.aoiCount = obj.body.aoiCount-(if q.watcher = p then 1 else 0) ∧ 0 < cell.body.ref := by
  unfold loses at lost
  split at lost
  · rename_i watcher
    obtain ⟨rfl,more⟩ := release_some lost
    exact ⟨rfl,rfl,by simp [watcher],by simp [watcher],more⟩
  · rename_i notWatcher
    split at lost
    · rename_i marker
      obtain ⟨rfl,more⟩ := release_some lost
      exact ⟨rfl,rfl,by simp [marker],by simp [Ne.symm notWatcher],more⟩
    · rename_i notMarker
      cases lost
      exact ⟨rfl,rfl,by simp [Ne.symm notWatcher,Ne.symm notMarker],by simp [Ne.symm notWatcher],live⟩

-- An object that another pair has stays.
theorem loses_stays (more : (if q.watcher = p ∨ q.marker = p then 1 else 0) < obj.body.ref) : ∃ cell, loses q p obj = some cell := by
  unfold loses release
  split
  · rename_i watcher
    rw [if_pos (.inl watcher.symm)] at more
    dsimp only
    rw [if_neg (by omega)]
    exact ⟨_,rfl⟩
  · split
    · rename_i marker
      rw [if_pos (.inr marker.symm)] at more
      rw [if_neg (by omega)]
      exact ⟨_,rfl⟩
    · exact ⟨obj,rfl⟩

theorem dropPair_sound (sound : Sound space (q::rest)) : ∃ after, dropPair q space = some after ∧ Frame space after ∧ Sound after rest := by
  obtain ⟨watcher,marker,foundW,foundM,apart,_⟩ := sound.there q (List.mem_cons_self ..)
  obtain ⟨after,done,frame,hash,mapped,heap⟩ := dropPair_done sound.mapped foundW foundM apart
  have before {p cell} (found : after.heap.lookup p = some cell) : ∃ obj, space.heap.lookup p = some obj ∧ loses q p obj = some cell := by
    rw [heap] at found
    exact Option.bind_eq_some_iff.mp found
  have stays (p obj) (found : space.heap.lookup p = some obj) (part : 0 < involved p rest) :
      ∃ cell, after.heap.lookup p = some cell ∧ cell.id = obj.id := by
    have ref := sound.ref found
    rw [involved_cons] at ref
    have more : (if q.watcher = p ∨ q.marker = p then 1 else 0) < obj.body.ref := by
      split <;> rename_i mine <;> simp only [mine,if_true,if_false] at ref <;> omega
    obtain ⟨cell,lost⟩ := loses_stays more
    refine ⟨cell,?_,(loses_some lost (sound.live found)).1⟩
    rw [heap,found]
    exact lost
  refine ⟨after,done,frame,?_,?_,?_,mapped,?_,?_,(List.nodup_cons.mp sound.distinct).2⟩
  · intro p cell found
    obtain ⟨obj,there,lost⟩ := before found
    obtain ⟨_,self,ref,_⟩ := loses_some lost (sound.live there)
    rw [ref,self,sound.ref there,involved_cons]
    push_cast
    split <;> omega
  · intro p cell found
    obtain ⟨obj,there,lost⟩ := before found
    exact (loses_some lost (sound.live there)).2.2.2.2
  · intro p cell found
    obtain ⟨obj,there,lost⟩ := before found
    obtain ⟨_,_,_,count,_⟩ := loses_some lost (sound.live there)
    obtain ⟨all,few⟩ := sound.aoiCount there
    rw [watched_cons] at all
    rw [frame.maxAoiCount,count]
    push_cast at all
    split at all <;> rename_i mine <;> simp only [mine,if_true,if_false] <;> omega
  · exact sound.ends (fun _ => List.mem_cons_of_mem q) stays
  · rw [hash]
    have fewer := sound.pairHash.erase q
    rwa [List.erase_cons_head] at fewer

end Drop

section Flush

-- Every pair is read while its objects are there, and goes or stays.
theorem flushPairs_sound (distances : Distances) (pairs front : List Pair) (space : Space) (sound : Sound space (front++pairs)) :
    ∃ kept calls after, flushPairs distances pairs space = some (kept,calls,after) ∧ Frame space after ∧ Sound after (front++kept) := by
  induction pairs generalizing front space with
  | nil => exact ⟨[],[],space,rfl,.refl space,sound⟩
  | cons q rest ih =>
    obtain ⟨watcher,marker,foundW,foundM,_⟩ := sound.there q (List.mem_append_right _ (List.mem_cons_self ..))
    rw [flushPairs]
    simp only [foundW,foundM,Option.bind_eq_bind,Option.bind_some]
    split
    · have shift : front++q::rest = (front++[q])++rest := by
        rw [List.append_assoc]
        rfl
      rw [shift] at sound
      obtain ⟨kept,later,after,done,frame,keeps⟩ := ih (front++[q]) space sound
      rw [List.append_assoc] at keeps
      refine ⟨q::kept,(flushOne distances watcher marker).2++later,after,?_,frame,keeps⟩
      rw [done,Option.bind_some]
    · obtain ⟨middle,dropped,first,fewer⟩ := dropPair_sound (sound.perm List.perm_middle)
      obtain ⟨kept,later,after,done,second,keeps⟩ := ih front middle fewer
      refine ⟨kept,(flushOne distances watcher marker).2++later,after,?_,first.trans second,keeps⟩
      rw [dropped,Option.bind_some,done,Option.bind_some]

theorem flushPair_sound (distances : Distances) (sound : Sound space space.hot) :
    ∃ after calls, flushPair distances space = some (after,calls) ∧ Sound after after.hot ∧ after.maxAoiCount = space.maxAoiCount ∧
      Names space after := by
  obtain ⟨kept,calls,after,done,frame,keeps⟩ := flushPairs_sound distances space.hot [] space sound
  refine ⟨{after with hot:=kept},calls,?_,?_,frame.maxAoiCount,frame.names⟩
  · unfold flushPair
    simp only [done,Option.bind_eq_bind,Option.bind_some]
  · exact ⟨keeps.ref,keeps.live,keeps.aoiCount,keeps.mapped,keeps.there,keeps.pairHash,keeps.distinct⟩

end Flush

section Write

-- An object with other contents, its counters and its part in the pairs as before.
theorem set_sound (sound : Sound space pairs) (found : space.heap.lookup p = some obj) (name : cell.id = obj.id)
    (ref : cell.body.ref = involved p pairs+own cell) (live : 0 < cell.body.ref) (count : cell.body.aoiCount = obj.body.aoiCount) :
    Sound (space.set p cell) pairs := by
  have stays (j other) (there : space.heap.lookup j = some other) :
      ∃ next, (space.set p cell).heap.lookup j = some next ∧ next.id = other.id := by
    rw [set_lookup]
    split
    · rename_i here
      subst here
      rw [found] at there
      cases there
      exact ⟨cell,rfl,name⟩
    · exact ⟨other,there,rfl⟩
  refine ⟨?_,?_,?_,set_mapped sound.mapped found name,?_,sound.pairHash,sound.distinct⟩
  · intro j other there
    rcases set_found there with ⟨rfl,rfl⟩ | ⟨_,old⟩
    · exact ref
    · exact sound.ref old
  · intro j other there
    rcases set_found there with ⟨rfl,rfl⟩ | ⟨_,old⟩
    · exact live
    · exact sound.live old
  · intro j other there
    rcases set_found there with ⟨rfl,rfl⟩ | ⟨_,old⟩
    · rw [count]
      exact sound.aoiCount found
    · exact sound.aoiCount old
  · exact sound.ends (fun _ mem => mem) (fun j other there _ => stays j other there)

end Write

section Push

-- Where set_push puts an object.
def SetsOf (sets : Sets) : List Pointer := sets.watcherStatic++sets.markerStatic++sets.watcherMove++sets.markerMove

theorem setPush_sound (sets : Sets) (sound : Sound space pairs) (found : space.heap.lookup p = some obj) :
    ∃ sets' after, setPush (sets,space) p = some (sets',after) ∧ Frame space after ∧ Sound after pairs ∧
      (∀ j, (after.heap.lookup j).isSome = (space.heap.lookup j).isSome) ∧ ∀ j ∈ SetsOf sets', j ∈ SetsOf sets ∨ j = p := by
  unfold setPush
  simp only [found,Option.bind_eq_bind,Option.bind_some]
  refine ⟨_,_,rfl,?_,?_,?_,?_⟩
  · split
    · exact ⟨rfl,rfl,set_names found rfl⟩
    · exact .refl space
  · split
    · have ref := sound.ref found
      have live := sound.live found
      exact set_sound sound found rfl ref live rfl
    · exact sound
  · intro j
    split
    · rw [set_lookup]
      split
      · rename_i here
        rw [here,found]
        rfl
      · rfl
    · rfl
  · intro j
    unfold SetsOf
    cases obj.body.mode.watcher <;> cases obj.body.mode.marker <;> cases obj.body.mode.move <;> grind

theorem pushes_sound (pointers : List Pointer) (sets : Sets) (space : Space) (sound : Sound space pairs)
    (there : ∀ p ∈ pointers, (space.heap.lookup p).isSome = true) (before : ∀ p ∈ SetsOf sets, (space.heap.lookup p).isSome = true) :
    ∃ sets' after, pointers.foldlM setPush (sets,space) = some (sets',after) ∧ Frame space after ∧ Sound after pairs ∧
      ∀ p ∈ SetsOf sets', (after.heap.lookup p).isSome = true := by
  induction pointers generalizing sets space with
  | nil => exact ⟨sets,space,rfl,.refl space,sound,before⟩
  | cons p rest ih =>
    obtain ⟨mine,others⟩ := List.forall_mem_cons.mp there
    obtain ⟨obj,found⟩ := Option.isSome_iff_exists.mp mine
    obtain ⟨sets',middle,first,frame,keeps,same,from_⟩ := setPush_sound sets sound found
    obtain ⟨last,after,done,frame',sound',live⟩ := ih sets' middle keeps
      (fun j mem => by rw [same]; exact others j mem)
      (fun j mem => by
        rw [same]
        rcases from_ j mem with old | rfl
        · exact before j old
        · exact mine)
    refine ⟨last,after,?_,frame.trans frame',sound',live⟩
    rw [List.foldlM_cons,first]
    exact done

theorem pushAll_sound (order : Order Pointer) (sound : Sound space pairs) :
    ∃ sets after, pushAll order space = some (sets,after) ∧ Frame space after ∧ Sound after pairs ∧
      ∀ p ∈ SetsOf sets, (after.heap.lookup p).isSome = true := by
  apply pushes_sound _ _ _ sound
  · intro p mem
    obtain ⟨entry,inside,rfl⟩ := List.mem_map.mp (order.mem_visit.mp mem)
    have found : space.object.lookup entry.1 = some entry.2 := AList.mem_lookup_iff.mpr inside
    obtain ⟨obj,there,_⟩ := (sound.mapped _ _).mp found
    rw [there]
    rfl
  · intro p mem
    cases mem

end Push

section Generate
variable {key : List Char}

-- What a new pair gives to an object.
def gains (w m p : Pointer) (obj : Cell) : Cell :=
  if p = w then {obj with body.ref:=obj.body.ref+1, body.aoiCount:=obj.body.aoiCount+1}
  else if p = m then {obj with body.ref:=obj.body.ref+1} else obj

theorem gains_counts (w m p : Pointer) (obj : Cell) :
    (gains w m p obj).id = obj.id ∧ own (gains w m p obj) = own obj ∧
      (gains w m p obj).body.ref = obj.body.ref+(if w = p ∨ m = p then 1 else 0) ∧
      (gains w m p obj).body.aoiCount = obj.body.aoiCount+(if w = p then 1 else 0) := by
  unfold gains
  split
  · rename_i watcher
    exact ⟨rfl,rfl,by simp [watcher],by simp [watcher]⟩
  · rename_i notWatcher
    split
    · rename_i marker
      exact ⟨rfl,rfl,by simp [marker],by simp [Ne.symm notWatcher]⟩
    · rename_i notMarker
      exact ⟨rfl,rfl,by simp [Ne.symm notWatcher,Ne.symm notMarker],by simp [Ne.symm notWatcher]⟩

theorem addPair_done (apart : w ≠ m) (watcher : space.heap.lookup w = some obj) (marker : space.heap.lookup m = some cell) (key : List Char) :
    ∃ after, addPair w m key space = some after ∧ after.object = space.object ∧ after.hot = ⟨key,w,m⟩::space.hot ∧
      after.pairHash = ⟨key,w,m⟩::space.pairHash ∧ after.maxAoiCount = space.maxAoiCount ∧
      ∀ j, after.heap.lookup j = (space.heap.lookup j).map (gains w m j) := by
  have one := set_lookup space w {obj with body.ref:=obj.body.ref+1}
  have still : (space.set w {obj with body.ref:=obj.body.ref+1}).heap.lookup m = some cell := by
    rw [one,if_neg apart.symm]
    exact marker
  have two := set_lookup (space.set w {obj with body.ref:=obj.body.ref+1}) m {cell with body.ref:=cell.body.ref+1}
  have back : ((space.set w {obj with body.ref:=obj.body.ref+1}).set m {cell with body.ref:=cell.body.ref+1}).heap.lookup w =
      some {obj with body.ref:=obj.body.ref+1} := by
    rw [two,if_neg apart,one,if_pos rfl]
  have three := set_lookup ((space.set w {obj with body.ref:=obj.body.ref+1}).set m {cell with body.ref:=cell.body.ref+1}) w
    {obj with body.ref:=obj.body.ref+1, body.aoiCount:=obj.body.aoiCount+1}
  unfold addPair grabObject
  simp only [watcher,still,back,Option.bind_eq_bind,Option.bind_some]
  refine ⟨_,rfl,rfl,rfl,rfl,rfl,?_⟩
  intro j
  refine (three j).trans ?_
  rw [two,one]
  unfold gains
  by_cases isWatcher : j = w
  · subst isWatcher
    rw [if_pos rfl,watcher]
    simp
  · rw [if_neg isWatcher,if_neg isWatcher]
    by_cases isMarker : j = m
    · subst isMarker
      rw [if_pos rfl,marker]
      simp [isWatcher]
    · rw [if_neg isMarker]
      cases space.heap.lookup j with
      | none => rfl
      | some other => simp [isWatcher,isMarker]

theorem addPair_sound (sound : Sound space space.hot) (apart : w ≠ m) (watcher : space.heap.lookup w = some obj)
    (marker : space.heap.lookup m = some cell) (room : obj.body.aoiCount < space.maxAoiCount)
    (fresh : ∀ q ∈ space.hot, q.key ≠ pairKey obj.id cell.id) :
    ∃ after, addPair w m (pairKey obj.id cell.id) space = some after ∧ Sound after after.hot ∧ after.maxAoiCount = space.maxAoiCount ∧
      Names space after ∧ ∀ j, (after.heap.lookup j).isSome = (space.heap.lookup j).isSome := by
  obtain ⟨after,done,object,hot,hash,most,heap⟩ := addPair_done apart watcher marker (pairKey obj.id cell.id)
  have before {p other} (found : after.heap.lookup p = some other) : ∃ old, space.heap.lookup p = some old ∧ gains w m p old = other := by
    rw [heap] at found
    exact Option.map_eq_some_iff.mp found
  have stays {p old} (found : space.heap.lookup p = some old) : after.heap.lookup p = some (gains w m p old) := by
    rw [heap,found]
    rfl
  refine ⟨after,done,?_,most,?_,fun j => by rw [heap,Option.isSome_map]⟩
  case refine_2 =>
    intro p other found
    obtain ⟨old,there,rfl⟩ := before found
    exact ⟨old,there,(gains_counts w m p old).1.symm⟩
  rw [hot]
  refine ⟨?_,?_,?_,?_,?_,?_,?_⟩
  · intro p other found
    obtain ⟨old,there,rfl⟩ := before found
    obtain ⟨_,self,ref,_⟩ := gains_counts w m p old
    rw [ref,self,sound.ref there,involved_cons]
    push_cast
    omega
  · intro p other found
    obtain ⟨old,there,rfl⟩ := before found
    have live := sound.live there
    rw [(gains_counts w m p old).2.2.1]
    split <;> omega
  · intro p other found
    obtain ⟨old,there,rfl⟩ := before found
    obtain ⟨count,few⟩ := sound.aoiCount there
    rw [(gains_counts w m p old).2.2.2,watched_cons,most]
    push_cast
    refine ⟨by omega,?_⟩
    split
    · rename_i mine
      subst mine
      rw [watcher] at there
      cases there
      omega
    · omega
  · intro id p
    rw [object,sound.mapped id p]
    constructor
    · rintro ⟨old,there,name⟩
      exact ⟨_,stays there,(gains_counts w m p old).1.trans name⟩
    · rintro ⟨other,there,name⟩
      obtain ⟨old,found,rfl⟩ := before there
      exact ⟨old,found,(gains_counts w m p old).1.symm.trans name⟩
  · intro q mem
    rcases List.mem_cons.mp mem with rfl | mem
    · refine ⟨_,_,stays watcher,stays marker,apart,?_⟩
      rw [(gains_counts w m w obj).1,(gains_counts w m m cell).1]
    · exact sound.ends (fun _ mem => mem) (fun j other there _ => ⟨_,stays there,(gains_counts w m j other).1⟩) q mem
  · rw [hash]
    exact sound.pairHash.cons _
  · rw [List.map_cons]
    refine List.nodup_cons.mpr ⟨?_,sound.distinct⟩
    intro mem
    obtain ⟨q,inside,same⟩ := List.mem_map.mp mem
    exact fresh q inside same

theorem genPair_sound (distances : Distances) (sound : Sound space space.hot) (watcher : (space.heap.lookup w).isSome = true)
    (marker : (space.heap.lookup m).isSome = true) (calls : List Callback) :
    ∃ after later, genPair distances (space,calls) (w,m) = some (after,later) ∧ Sound after after.hot ∧
      after.maxAoiCount = space.maxAoiCount ∧ Names space after ∧ ∀ j, (after.heap.lookup j).isSome = (space.heap.lookup j).isSome := by
  obtain ⟨obj,watcher⟩ := Option.isSome_iff_exists.mp watcher
  obtain ⟨cell,marker⟩ := Option.isSome_iff_exists.mp marker
  unfold genPair
  simp only [watcher,marker,Option.bind_eq_bind,Option.bind_some]
  split
  · exact ⟨space,calls,rfl,sound,rfl,.refl space,fun _ => rfl⟩
  · rename_i free
    rw [not_or,ge_iff_le,not_le] at free
    split
    · exact ⟨space,calls,rfl,sound,rfl,.refl space,fun _ => rfl⟩
    · rename_i missing
      split
      · exact ⟨space,calls,rfl,sound,rfl,.refl space,fun _ => rfl⟩
      · have fresh : ∀ q ∈ space.hot, q.key ≠ pairKey obj.id cell.id := by
          intro q mem same
          apply missing
          exact List.find?_isSome.mpr ⟨q,sound.pairHash.mem_iff.mpr mem,decide_eq_true same⟩
        obtain ⟨after,done,keeps,most,names,same⟩ := addPair_sound sound free.1 watcher marker free.2 fresh
        refine ⟨after,calls++[call obj.id cell.id .m cell.body],?_,keeps,most,names,same⟩
        rw [done,Option.bind_some]

theorem genPairs_sound (distances : Distances) (candidates : List (Pointer × Pointer)) (space : Space) (calls : List Callback)
    (sound : Sound space space.hot)
    (there : ∀ ids ∈ candidates, (space.heap.lookup ids.1).isSome = true ∧ (space.heap.lookup ids.2).isSome = true) :
    ∃ after later, candidates.foldlM (genPair distances) (space,calls) = some (after,later) ∧ Sound after after.hot ∧
      after.maxAoiCount = space.maxAoiCount ∧ Names space after ∧ ∀ j, (after.heap.lookup j).isSome = (space.heap.lookup j).isSome := by
  induction candidates generalizing space calls with
  | nil => exact ⟨space,calls,rfl,sound,rfl,.refl space,fun _ => rfl⟩
  | cons ids rest ih =>
    obtain ⟨w,m⟩ := ids
    obtain ⟨⟨watcher,marker⟩,others⟩ := List.forall_mem_cons.mp there
    obtain ⟨middle,calls',first,keeps,most,names,same⟩ := genPair_sound distances sound watcher marker calls
    obtain ⟨after,later,done,last,most',names',same'⟩ := ih middle calls' keeps (fun ids mem => by rw [same,same]; exact others ids mem)
    refine ⟨after,later,?_,last,most'.trans most,names.trans names',fun j => (same' j).trans (same j)⟩
    rw [List.foldlM_cons,first]
    exact done

end Generate

section Message

-- The pairs that gen_pair is called for.
def candidates (sets : Sets) : List (Pointer × Pointer) :=
  sets.watcherStatic.product sets.markerMove++sets.watcherMove.product sets.markerStatic++sets.watcherMove.product sets.markerMove

theorem genPairLists (distances : Distances) (sets : Sets) (state : Space × List Callback) :
    (do
      let state ← genPairList distances sets.watcherStatic sets.markerMove state
      let state ← genPairList distances sets.watcherMove sets.markerStatic state
      genPairList distances sets.watcherMove sets.markerMove state) = (candidates sets).foldlM (genPair distances) state := by
  unfold candidates genPairList
  rw [List.foldlM_append,List.foldlM_append]
  exact (bind_assoc _ _ _).symm

theorem candidates_there {sets : Sets} (live : ∀ p ∈ SetsOf sets, (space.heap.lookup p).isSome = true) :
    ∀ ids ∈ candidates sets, (space.heap.lookup ids.1).isSome = true ∧ (space.heap.lookup ids.2).isSome = true := by
  rintro ⟨w,m⟩ mem
  simp only [candidates,List.mem_append,List.pair_mem_product] at mem
  simp only [SetsOf,List.mem_append] at live
  exact ⟨live w (by tauto),live m (by tauto)⟩

-- The stages of a message.
structure Messaged (distances : Distances) (order : Order Pointer) (space flushed pushed : Space) (told : List Callback) (sets : Sets) :
    Prop where
  flush : flushPair distances space = some (flushed,told)
  push : pushAll order flushed = some (sets,pushed)
  sound : Sound pushed pushed.hot
  there : ∀ ids ∈ candidates sets, (pushed.heap.lookup ids.1).isSome = true ∧ (pushed.heap.lookup ids.2).isSome = true
  maxAoiCount : pushed.maxAoiCount = space.maxAoiCount
  names : Names space pushed

theorem messaged (distances : Distances) (order : Order Pointer) (sound : Sound space space.hot) :
    ∃ flushed pushed told sets, Messaged distances order space flushed pushed told sets := by
  obtain ⟨flushed,told,flush,first,most,names⟩ := flushPair_sound distances sound
  obtain ⟨sets,pushed,push,frame,second,live⟩ := pushAll_sound order first
  rw [←frame.hot] at second
  exact ⟨flushed,pushed,told,sets,flush,push,second,candidates_there live,frame.maxAoiCount.trans most,names.trans frame.names⟩

theorem Messaged.runs {flushed pushed : Space} {told : List Callback} {sets : Sets} {order : Order Pointer}
    (stages : Messaged distances order space flushed pushed told sets) :
    aoiMessage distances order space = (candidates sets).foldlM (genPair distances) (pushed,told) := by
  unfold aoiMessage
  simp only [stages.flush,stages.push,Option.bind_eq_bind,Option.bind_some]
  exact genPairLists distances sets (pushed,told)

theorem aoiMessage_sound (distances : Distances) (order : Order Pointer) (sound : Sound space space.hot) :
    ∃ after calls, aoiMessage distances order space = some (after,calls) ∧ Sound after after.hot ∧
      after.maxAoiCount = space.maxAoiCount ∧ Names space after := by
  obtain ⟨flushed,pushed,told,sets,stages⟩ := messaged distances order sound
  obtain ⟨after,calls,done,keeps,most,names,_⟩ := genPairs_sound distances (candidates sets) pushed told stages.sound stages.there
  exact ⟨after,calls,stages.runs.trans done,keeps,most.trans stages.maxAoiCount,stages.names.trans names⟩

end Message

section Update

-- Every object was there before, or has the id of the call.
def Enters (id : Nat) (space after : Space) : Prop :=
  ∀ p obj, after.heap.lookup p = some obj → (∃ old, space.heap.lookup p = some old ∧ old.id = obj.id) ∨ obj.id = id

theorem Enters.trans {last : Space} (first : Enters id space after) (second : Names after last) : Enters id space last := by
  intro p obj found
  obtain ⟨middle,there,same⟩ := second p obj found
  rw [←same]
  exact first p middle there

-- Nothing in the list is of an address that is not in use.
theorem involved_free (sound : Sound space pairs) (free : space.heap.lookup p = none) : involved p pairs = 0 ∧ watched p pairs = 0 := by
  have nobody (q) (mem : q ∈ pairs) : ¬ (q.watcher = p ∨ q.marker = p) := by
    obtain ⟨watcher,marker,foundW,foundM,_⟩ := sound.there q mem
    rintro (rfl | rfl)
    · rw [foundW] at free
      cases free
    · rw [foundM] at free
      cases free
  refine ⟨List.countP_eq_zero.mpr ?_,List.countP_eq_zero.mpr ?_⟩
  · intro q mem part
    exact nobody q mem (of_decide_eq_true part)
  · intro q mem part
    exact nobody q mem (.inl (of_decide_eq_true part))

theorem newObject_sound (sound : Sound space pairs) (free : space.heap.lookup p = none) (unknown : space.object.lookup id = none) :
    Sound {space.set p ⟨id,Aoi.newObject⟩ with object:=space.object.insert id p} pairs := by
  have heap := set_lookup space p ⟨id,Aoi.newObject⟩
  have stays {j other} (there : space.heap.lookup j = some other) : (space.set p ⟨id,Aoi.newObject⟩).heap.lookup j = some other := by
    rw [heap,if_neg]
    · exact there
    · rintro rfl
      rw [free] at there
      cases there
  obtain ⟨none,nobody⟩ := involved_free sound free
  refine ⟨?_,?_,?_,?_,?_,sound.pairHash,sound.distinct⟩
  · intro j other there
    rcases set_found there with ⟨rfl,rfl⟩ | ⟨_,old⟩
    · rw [none]
      rfl
    · exact sound.ref old
  · intro j other there
    rcases set_found there with ⟨rfl,rfl⟩ | ⟨_,old⟩
    · exact Int.zero_lt_one
    · exact sound.live old
  · intro j other there
    rcases set_found there with ⟨rfl,rfl⟩ | ⟨_,old⟩
    · rw [nobody]
      exact ⟨rfl,Int.natCast_nonneg _⟩
    · exact sound.aoiCount old
  · intro name j
    dsimp only
    constructor
    · intro found
      rcases Table.found_insert found with ⟨rfl,rfl⟩ | ⟨_,old⟩
      · exact ⟨_,(heap _).trans (if_pos rfl),rfl⟩
      · obtain ⟨other,there,same⟩ := (sound.mapped name j).mp old
        exact ⟨other,stays there,same⟩
    · rintro ⟨other,there,same⟩
      rcases set_found there with ⟨rfl,rfl⟩ | ⟨_,old⟩
      · subst same
        exact AList.lookup_insert _
      · have known := (sound.mapped name j).mpr ⟨other,old,same⟩
        rw [AList.lookup_insert_ne]
        · exact known
        · rintro rfl
          rw [unknown] at known
          cases known
  · exact sound.ends (fun _ mem => mem) (fun j other there _ => ⟨other,stays there,rfl⟩)

theorem mapQuery_sound (allocator : Allocator) (sound : Sound space space.hot) (id : Nat) :
    ∃ p queried obj, mapQuery allocator space id = (p,queried) ∧ queried.heap.lookup p = some obj ∧ Sound queried queried.hot ∧
      queried.maxAoiCount = space.maxAoiCount ∧ Enters id space queried := by
  unfold mapQuery
  cases known : space.object.lookup id with
  | some p =>
    obtain ⟨obj,found,_⟩ := (sound.mapped id p).mp known
    exact ⟨p,space,obj,rfl,found,sound,rfl,fun j other there => .inl ⟨other,there,rfl⟩⟩
  | none =>
    have free : space.heap.lookup (allocator.alloc space.heap) = none := AList.lookup_eq_none.mpr (allocator.fresh _)
    refine ⟨_,_,_,rfl,(set_lookup ..).trans (if_pos rfl),newObject_sound sound free known,rfl,?_⟩
    intro j other there
    rcases set_found there with ⟨rfl,rfl⟩ | ⟨_,old⟩
    · exact .inr rfl
    · exact .inl ⟨other,old,rfl⟩

theorem enter_counts (distances : Distances) (obj : Object) (setWatcher setMarker : Bool) (rtype : Nat) (pos tpos : Position) :
    (enter distances obj setWatcher setMarker rtype pos tpos).ref = obj.ref+(if obj.mode.drop then 1 else 0) ∧
      (enter distances obj setWatcher setMarker rtype pos tpos).mode.drop = false ∧
      (enter distances obj setWatcher setMarker rtype pos tpos).aoiCount = obj.aoiCount := by
  have still (mode : Aoi.Mode) (here : mode.drop = false) : (changeMode mode setWatcher setMarker).2.drop = false := by
    unfold changeMode
    split
    · rfl
    · exact here
  have moved (changed : Bool) (o : Object) :
      (if changed then {o with last:=pos, mode.move:=true} else o).ref = o.ref ∧
      (if changed then {o with last:=pos, mode.move:=true} else o).mode.drop = o.mode.drop ∧
      (if changed then {o with last:=pos, mode.move:=true} else o).aoiCount = o.aoiCount := by
    split <;> exact ⟨rfl,rfl,rfl⟩
  unfold enter
  cases drop : obj.mode.drop with
  | true => exact ⟨(moved _ _).1,(moved _ _).2.1.trans (still {obj.mode with drop:=false} rfl),(moved _ _).2.2⟩
  | false => exact ⟨(moved _ _).1.trans (add_zero _).symm,(moved _ _).2.1.trans (still obj.mode drop),(moved _ _).2.2⟩

-- An object that leaves gives up the reference it has of itself.
theorem leave_sound (sound : Sound space space.hot) (found : space.heap.lookup p = some obj) (here : obj.body.mode.drop = false) :
    ∃ after, dropObject p (space.set p {obj with body:=leave obj.body}) = some after ∧ Sound after after.hot ∧
      after.maxAoiCount = space.maxAoiCount ∧ Names space after := by
  have set := set_lookup space p {obj with body:=leave obj.body}
  have mapped : Mapped (space.set p {obj with body:=leave obj.body}) := set_mapped sound.mapped found rfl
  obtain ⟨after,done,frame,hash,mapped,heap⟩ := dropObject_done mapped ((set p).trans (if_pos rfl))
  have ref := sound.ref found
  rw [own,here] at ref
  have hot : after.hot = space.hot := frame.hot
  have most : after.maxAoiCount = space.maxAoiCount := frame.maxAoiCount
  have before {j other} (there : after.heap.lookup j = some other) :
      j = p ∧ release {obj with body:=leave obj.body} = some other ∨ space.heap.lookup j = some other := by
    rw [heap] at there
    split at there
    · exact .inl ⟨‹j = p›,there⟩
    · rename_i away
      rw [set,if_neg away] at there
      exact .inr there
  have stays (j other) (there : space.heap.lookup j = some other) (part : 0 < involved j space.hot) :
      ∃ next, after.heap.lookup j = some next ∧ next.id = other.id := by
    rw [heap]
    split
    · rename_i same
      subst same
      rw [found] at there
      cases there
      unfold release
      rw [if_neg (by change ¬ obj.body.ref-1 ≤ 0; simp only [Bool.false_eq_true,if_false] at ref; omega)]
      exact ⟨_,rfl,rfl⟩
    · rename_i away
      exact ⟨other,(set j).trans ((if_neg away).trans there),rfl⟩
  have names : Names space (space.set p {obj with body:=leave obj.body}) := set_names found rfl
  refine ⟨after,done,?_,most,names.trans frame.names⟩
  rw [hot]
  refine ⟨?_,?_,?_,mapped,?_,by rw [hash]; exact sound.pairHash,sound.distinct⟩
  · intro j other there
    rcases before there with ⟨rfl,released⟩ | old
    · obtain ⟨rfl,_⟩ := release_some released
      change obj.body.ref-1 = (involved j space.hot : Int)+(0 : Nat)
      simp only [Bool.false_eq_true,if_false] at ref
      omega
    · exact sound.ref old
  · intro j other there
    rcases before there with ⟨rfl,released⟩ | old
    · exact (release_some released).2
    · exact sound.live old
  · intro j other there
    rw [most]
    rcases before there with ⟨rfl,released⟩ | old
    · obtain ⟨rfl,_⟩ := release_some released
      have counts := sound.aoiCount found
      exact counts
    · exact sound.aoiCount old
  · exact sound.ends (fun _ mem => mem) stays

theorem aoiUpdate_sound (distances : Distances) (allocator : Allocator) (sound : Sound space space.hot) (id : Nat) (modestring : List Char)
    (rtype : Nat) (pos tpos : Position) :
    ∃ after, aoiUpdate distances allocator space id modestring rtype pos tpos = some after ∧ Sound after after.hot ∧
      after.maxAoiCount = space.maxAoiCount ∧ Enters id space after := by
  obtain ⟨p,queried,obj,query,found,sound,most,enters⟩ := mapQuery_sound allocator sound id
  unfold aoiUpdate
  rw [query]
  simp only [found,Option.bind_eq_bind,Option.bind_some]
  cases readMode modestring false false with
  | none =>
    cases drop : obj.body.mode.drop with
    | true => exact ⟨queried,rfl,sound,most,enters⟩
    | false =>
      obtain ⟨after,done,keeps,same,names⟩ := leave_sound sound found drop
      exact ⟨after,done,keeps,same.trans most,enters.trans names⟩
  | some modes =>
    obtain ⟨setWatcher,setMarker⟩ := modes
    obtain ⟨ref,here,count⟩ := enter_counts distances obj.body setWatcher setMarker rtype pos tpos
    have before := sound.ref found
    have live := sound.live found
    refine ⟨_,rfl,set_sound sound found rfl ?_ ?_ count,most,enters.trans (set_names found rfl)⟩
    · change (enter distances obj.body setWatcher setMarker rtype pos tpos).ref = ((involved p queried.hot : Nat) : Int)+((own _ : Nat) : Int)
      rw [ref,own,here,before,own]
      cases obj.body.mode.drop <;> simp
    · change 0 < (enter distances obj.body setWatcher setMarker rtype pos tpos).ref
      rw [ref]
      split <;> omega

end Update

section Run

theorem empty_sound (maxAoiCount : Nat) : Sound (emptySpace maxAoiCount) (emptySpace maxAoiCount).hot where
  ref found := by cases found
  live found := by cases found
  aoiCount found := by cases found
  mapped id p := by
    refine ⟨fun found => (by cases found),?_⟩
    rintro ⟨obj,found,_⟩
    cases found
  there q mem := by cases mem
  pairHash := .refl _
  distinct := List.nodup_nil

-- The ids that the calls give.
def Call.names : Call → List Nat
  | .update id _ _ _ _ => [id]
  | .message _ => []

theorem step_sound (allocator : Allocator) (distances : Distances) (sound : Sound space space.hot) (call : Call) :
    ∃ after, step allocator distances space call = some after ∧ Sound after after.hot ∧ after.maxAoiCount = space.maxAoiCount ∧
      ∀ p obj, after.heap.lookup p = some obj → (∃ old, space.heap.lookup p = some old ∧ old.id = obj.id) ∨ obj.id ∈ call.names := by
  cases call with
  | update id modestring rtype pos tpos =>
    obtain ⟨after,done,keeps,most,enters⟩ := aoiUpdate_sound distances allocator sound id modestring rtype pos tpos
    exact ⟨after,done,keeps,most,fun p obj found => (enters p obj found).imp_right List.mem_singleton.mpr⟩
  | message order =>
    obtain ⟨after,calls,done,keeps,most,names⟩ := aoiMessage_sound distances order sound
    refine ⟨after,?_,keeps,most,fun p obj found => .inl (names p obj found)⟩
    rw [step,done]
    rfl

theorem steps_sound (allocator : Allocator) (distances : Distances) (calls : List Call) (sound : Sound space space.hot) :
    ∃ after, calls.foldlM (step allocator distances) space = some after ∧ Sound after after.hot ∧
      after.maxAoiCount = space.maxAoiCount ∧ ∀ p obj, after.heap.lookup p = some obj →
        (∃ old, space.heap.lookup p = some old ∧ old.id = obj.id) ∨ obj.id ∈ calls.flatMap Call.names := by
  induction calls generalizing space with
  | nil => exact ⟨space,rfl,sound,rfl,fun p obj found => .inl ⟨obj,found,rfl⟩⟩
  | cons call rest ih =>
    obtain ⟨middle,first,keeps,most,names⟩ := step_sound allocator distances sound call
    obtain ⟨after,done,last,same,names'⟩ := ih keeps
    refine ⟨after,?_,last,same.trans most,?_⟩
    · rw [List.foldlM_cons,first]
      exact done
    · intro p obj found
      rw [List.flatMap_cons,List.mem_append]
      rcases names' p obj found with ⟨old,there,name⟩ | later
      · rw [←name]
        exact (names p old there).imp_right .inl
      · exact .inr (.inr later)

-- Every object has the id of a call.
theorem run_names (allocator : Allocator) (distances : Distances) (maxAoiCount : Nat) (calls : List Call) :
    ∃ space, run allocator distances maxAoiCount calls = some space ∧ Sound space space.hot ∧
      ∀ p obj, space.heap.lookup p = some obj → obj.id ∈ calls.flatMap Call.names := by
  obtain ⟨space,done,sound,_,names⟩ := steps_sound allocator distances calls (empty_sound maxAoiCount)
  refine ⟨space,done,sound,fun p obj found => (names p obj found).elim ?_ (fun named => named)⟩
  rintro ⟨old,there,_⟩
  cases there

-- No call reads an object that has been freed, and after every run of calls the counters fit.
theorem run_refs (allocator : Allocator) (distances : Distances) (maxAoiCount : Nat) (calls : List Call) :
    ∃ space, run allocator distances maxAoiCount calls = some space ∧ Sound space space.hot ∧ space.maxAoiCount = maxAoiCount := by
  obtain ⟨space,done,sound,most,_⟩ := steps_sound allocator distances calls (empty_sound maxAoiCount)
  exact ⟨space,done,sound,most⟩

end Run
end OriginGame.AoiHeap
