import Mathlib.Data.Finset.Insert
import OriginGame.AoiCounts
import OriginGame.Runs

namespace OriginGame.Aoi

-- The mode string of an id, as long as it does not leave.
inductive Part where
  | w | m | wm
  deriving DecidableEq

def Part.string : Part → List Char
  | .w => ['w']
  | .m => ['m']
  | .wm => ['w','m']

def Part.watches : Part → Bool
  | .m => false
  | _ => true

def Part.marks : Part → Bool
  | .w => false
  | _ => true

structure Step where
  id : Nat
  leaves : Bool
  rtype : Nat
  pos : Position
  tpos : Position
  order : Order Nat

inductive Entry where
  | entered (id : Nat)
  | delivered (callback : Callback)

def modestring (parts : Nat → Part) (step : Step) : List Char := if step.leaves then ['d'] else (parts step.id).string

-- updateAoi, with a record of who comes in and of what is delivered.
def updateAoi (parts : Nat → Part) (step : Step) (state : Space × List Entry) : Space × List Entry :=
  let (space,log) := state
  let comes := if !step.leaves && (space.object.lookup step.id).isNone then [Entry.entered step.id] else []
  let (space,calls) := aoiMessage step.order (aoiUpdate space step.id (modestring parts step) step.rtype step.pos step.tpos)
  (space,log++comes++calls.map .delivered)

def replayOne (w : Nat) (seen : Finset Nat) : Entry → Finset Nat
  | .entered id => if id = w then ∅ else seen
  | .delivered callback =>
    if callback.watcher = w then
      match callback.action with
      | .m => insert callback.marker seen
      | .d => seen.erase callback.marker
    else seen

-- The markers a watcher has been told of since it came in.
def replay (w : Nat) (log : List Entry) : Finset Nat := log.foldl (replayOne w) ∅

def InHot (hot : List Pair) (w m : Nat) : Prop := ∃ p ∈ hot, p.watcher = w ∧ p.marker = m

def Watches (objects : Table Nat Object) (w : Nat) : Prop := ∃ obj, objects.lookup w = some obj ∧ obj.mode.watcher = true

def Marks (objects : Table Nat Object) (m : Nat) : Prop := ∃ obj, objects.lookup m = some obj ∧ obj.mode.marker = true

def Visible (space : Space) (w m : Nat) : Prop :=
  Watches space.object w ∧ Marks space.object m ∧ w ≠ m ∧
    dist2 (query space.object w).position (query space.object m).position ≤ space.radius2

section Update
variable {parts : Nat → Part} {objects : Table Nat Object} {hot : List Pair} {id : Nat} {obj : Object}

theorem dist2_nonneg (p q : Position) : 0 ≤ dist2 p q := by
  exact add_nonneg (add_nonneg (mul_self_nonneg _) (mul_self_nonneg _)) (mul_self_nonneg _)

-- No position is near another, so every update moves.
theorem isNear_false (p q : Position) : isNear p q = false := decide_eq_false (not_lt.mpr (dist2_nonneg p q))

def atRest (part : Part) : Mode := ⟨part.watches,part.marks,false,false⟩

def moving (part : Part) : Mode := ⟨part.watches,part.marks,true,false⟩

theorem enter_moves (rest : obj.mode = atRest part ∨ obj = newObject) :
    enter obj part.watches part.marks rtype pos tpos =
      ⟨obj.ref,moving part,pos,pos,tpos,obj.tposition,rtype,obj.aoiCount⟩ := by
  unfold enter
  rcases rest with same | rfl
  · obtain ⟨ref,mode,last,position,tposition,lastTpos,kind,aoiCount⟩ := obj
    subst same
    cases part <;> simp [atRest,moving,changeMode,Part.watches,Part.marks,isNear_false]
  · cases part <;> simp [newObject,moving,changeMode,Part.watches,Part.marks,isNear_false]

-- What an update leaves: counters that fit the hot list, and one object that moves or leaves.
structure Updated (parts : Nat → Part) (step : Step) (objects : Table Nat Object) (hot : List Pair) (later : Table Nat Object) :
    Prop where
  counted : Counted later hot
  others : ∀ j, j ≠ step.id → later.lookup j = objects.lookup j
  moves : step.leaves = false → ∃ obj, later.lookup step.id = some obj ∧
    obj.mode = moving (parts step.id) ∧ obj.position = step.pos
  leaves : step.leaves = true → ∀ obj, later.lookup step.id = some obj → obj.mode = ⟨false,false,false,true⟩

theorem absent_involved (counted : Counted objects hot) (absent : objects.lookup id = none) : involved id hot = 0 := by
  apply List.countP_eq_zero.mpr
  intro p mem part
  obtain ⟨watcher,marker,_⟩ := counted.there p mem
  rcases of_decide_eq_true part with rfl | rfl
  · rw [absent] at watcher
    cases watcher
  · rw [absent] at marker
    cases marker

theorem absent_watched (counted : Counted objects hot) (absent : objects.lookup id = none) : watched id hot = 0 := by
  have none := absent_involved counted absent
  have fewer : watched id hot ≤ involved id hot := by
    apply List.countP_mono_left
    intro p _ watcher
    exact decide_eq_true (.inl (of_decide_eq_true watcher))
  omega

-- A table that differs in one object with the same counters still fits.
theorem counted_insert (counted : Counted objects hot) (ref : obj.ref = involved id hot+if obj.mode.drop then 0 else 1)
    (live : 0 < obj.ref) (aoiCount : obj.aoiCount = watched id hot) : Counted (objects.insert id obj) hot := by
  refine ⟨?_,?_,?_,?_⟩
  · intro j other found
    rcases Table.found_insert found with ⟨rfl,rfl⟩ | ⟨_,old⟩
    · exact ref
    · exact counted.ref old
  · intro j other found
    rcases Table.found_insert found with ⟨rfl,rfl⟩ | ⟨_,old⟩
    · exact live
    · exact counted.live old
  · intro j other found
    rcases Table.found_insert found with ⟨rfl,rfl⟩ | ⟨_,old⟩
    · exact aoiCount
    · exact counted.aoiCount old
  · intro p mem
    have more {j} (there : (objects.lookup j).isSome = true) : ((objects.insert id obj).lookup j).isSome = true := by
      by_cases same : j = id
      · subst same
        rw [AList.lookup_insert]
        rfl
      · rwa [AList.lookup_insert_ne same]
    obtain ⟨watcher,marker,apart⟩ := counted.there p mem
    exact ⟨more watcher,more marker,apart⟩

theorem readMode_string (part : Part) : readMode part.string false false = some (part.watches,part.marks) := by
  cases part <;> rfl

theorem aoiUpdate_moves {space : Space} {step : Step} (stays : step.leaves = false) :
    (aoiUpdate space step.id (modestring parts step) step.rtype step.pos step.tpos).object =
      space.object.insert step.id
        (enter (query space.object step.id) (parts step.id).watches (parts step.id).marks step.rtype step.pos step.tpos) := by
  simp only [aoiUpdate,modestring,stays,Bool.false_eq_true,if_false,readMode_string]

theorem aoiUpdate_leaves {space : Space} {step : Step} (leaves : step.leaves = true)
    (rest : (query space.object step.id).mode.drop = false) :
    (aoiUpdate space step.id (modestring parts step) step.rtype step.pos step.tpos).object =
      dropObject (space.object.insert step.id (leave (query space.object step.id))) step.id := by
  simp only [aoiUpdate,modestring,leaves,if_true,readMode,rest,Bool.false_eq_true,if_false]

theorem aoiUpdate_others (space : Space) (id : Nat) (modestring : List Char) (rtype : Nat) (pos tpos : Position) :
    (aoiUpdate space id modestring rtype pos tpos).hot = space.hot ∧
    (aoiUpdate space id modestring rtype pos tpos).pairHash = space.pairHash ∧
    (aoiUpdate space id modestring rtype pos tpos).radius2 = space.radius2 ∧
    (aoiUpdate space id modestring rtype pos tpos).maxAoiCount = space.maxAoiCount := by
  unfold aoiUpdate
  dsimp only
  split
  · split <;> exact ⟨rfl,rfl,rfl,rfl⟩
  · exact ⟨rfl,rfl,rfl,rfl⟩

-- Between two steps every object has the mode of its string.
def AtRest (parts : Nat → Part) (objects : Table Nat Object) : Prop :=
  ∀ {id obj}, objects.lookup id = some obj → obj.mode = atRest (parts id)

theorem query_known (rest : AtRest parts objects) (id : Nat) :
    (query objects id).mode = atRest (parts id) ∨ query objects id = newObject := by
  unfold query
  cases found : objects.lookup id with
  | some obj => exact .inl (rest found)
  | none => exact .inr rfl

theorem query_fits (rest : AtRest parts objects) (counted : Counted objects hot) (id : Nat) :
    (query objects id).ref = involved id hot+1 ∧ (query objects id).aoiCount = watched id hot := by
  cases found : objects.lookup id with
  | some obj =>
    rw [query_some found,counted.ref found,counted.aoiCount found,rest found]
    exact ⟨rfl,rfl⟩
  | none =>
    rw [query,found,absent_involved counted found,absent_watched counted found]
    exact ⟨rfl,rfl⟩

theorem moves_updated {space : Space} {step : Step} (rest : AtRest parts space.object) (counted : Counted space.object space.hot)
    (stays : step.leaves = false) : Updated parts step space.object space.hot
      (aoiUpdate space step.id (modestring parts step) step.rtype step.pos step.tpos).object := by
  obtain ⟨ref,aoiCount⟩ := query_fits rest counted step.id
  rw [aoiUpdate_moves stays,enter_moves (query_known rest step.id)]
  refine ⟨counted_insert counted ref ?_ aoiCount,?_,?_,?_⟩
  · change 0 < (query space.object step.id).ref
    omega
  · intro j other
    exact AList.lookup_insert_ne other
  · intro _
    exact ⟨_,AList.lookup_insert _,rfl,rfl⟩
  · intro leaves
    rw [stays] at leaves
    cases leaves

theorem leaves_updated {space : Space} {step : Step} (rest : AtRest parts space.object) (counted : Counted space.object space.hot)
    (leaves : step.leaves = true) : Updated parts step space.object space.hot
      (aoiUpdate space step.id (modestring parts step) step.rtype step.pos step.tpos).object := by
  obtain ⟨ref,aoiCount⟩ := query_fits rest counted step.id
  have present : (query space.object step.id).mode.drop = false := by
    rcases query_known rest step.id with mode | fresh
    · rw [mode]
      rfl
    · rw [fresh]
      rfl
  rw [aoiUpdate_leaves leaves present]
  generalize query space.object step.id = obj at ref aoiCount
  have mine : (space.object.insert step.id (leave obj)).lookup step.id = some (leave obj) := AList.lookup_insert _
  have others (j) (other : j ≠ step.id) :
      (dropObject (space.object.insert step.id (leave obj)) step.id).lookup j = space.object.lookup j := by
    rw [dropObject_lookup_ne other,AList.lookup_insert_ne other]
  have gone {left} (found : (dropObject (space.object.insert step.id (leave obj)) step.id).lookup step.id = some left) :
      0 < involved step.id space.hot ∧ left = {leave obj with ref:=obj.ref-1} := by
    rw [dropObject_lookup mine] at found
    split at found
    · cases found
    · rename_i more
      cases found
      refine ⟨?_,rfl⟩
      change ¬ obj.ref-1 ≤ 0 at more
      omega
  have split {j left} (found : (dropObject (space.object.insert step.id (leave obj)) step.id).lookup j = some left) :
      j = step.id ∧ 0 < involved step.id space.hot ∧ left = {leave obj with ref:=obj.ref-1} ∨
      j ≠ step.id ∧ space.object.lookup j = some left := by
    by_cases same : j = step.id
    · subst same
      exact .inl ⟨rfl,gone found⟩
    · rw [others j same] at found
      exact .inr ⟨same,found⟩
  refine ⟨⟨?_,?_,?_,?_⟩,others,?_,?_⟩
  · intro j left found
    rcases split found with ⟨rfl,_,rfl⟩ | ⟨_,old⟩
    · simp only [leave,if_true]
      omega
    · exact counted.ref old
  · intro j left found
    rcases split found with ⟨rfl,more,rfl⟩ | ⟨_,old⟩
    · change 0 < obj.ref-1
      omega
    · exact counted.live old
  · intro j left found
    rcases split found with ⟨rfl,_,rfl⟩ | ⟨_,old⟩
    · exact aoiCount
    · exact counted.aoiCount old
  · intro p mem
    obtain ⟨watcher,marker,apart⟩ := counted.there p mem
    have still {j} (part : p.watcher = j ∨ p.marker = j) (there : (space.object.lookup j).isSome = true) :
        ((dropObject (space.object.insert step.id (leave obj)) step.id).lookup j).isSome = true := by
      by_cases same : j = step.id
      · subst same
        have more := involved_mem mem part
        rw [dropObject_lookup mine,if_neg (by change ¬ obj.ref-1 ≤ 0; omega)]
        rfl
      · rw [others j same]
        exact there
    exact ⟨still (.inl rfl) watcher,still (.inr rfl) marker,apart⟩
  · intro stays
    rw [leaves] at stays
    cases stays
  · intro _ left found
    rw [(gone found).2]
    rfl

theorem aoiUpdate_updated {space : Space} (step : Step) (rest : AtRest parts space.object)
    (counted : Counted space.object space.hot) : Updated parts step space.object space.hot
      (aoiUpdate space step.id (modestring parts step) step.rtype step.pos step.tpos).object := by
  cases leaves : step.leaves with
  | false => exact moves_updated rest counted leaves
  | true => exact leaves_updated rest counted leaves

end Update

section Message
variable {space : Space} {order : Order Nat} {parts : Nat → Part}

theorem flushOne_stays (radius2 : ℚ) (p : Pair) (watcher marker : Object) : (flushOne radius2 p watcher marker).1 = true ↔
    watcher.mode.drop = false ∧ marker.mode.drop = false ∧ dist2 watcher.position marker.position ≤ radius2 := by
  unfold flushOne
  split
  · rename_i gone
    simp only [Bool.false_eq_true,false_iff]
    rintro ⟨first,second,_⟩
    rw [first,second] at gone
    cases gone
  · rename_i here
    simp only [Bool.or_eq_true,not_or,Bool.not_eq_true] at here
    split
    · rename_i far
      simp only [Bool.false_eq_true,false_iff]
      rintro ⟨_,_,close⟩
      exact absurd close (not_le.mpr far)
    · rename_i close
      have near := not_lt.mp close
      split <;> simp only [here,near,and_self]

def stays (space : Space) : List Pair := space.hot.filter (fun p => (flushed space p).1)

def flushCalls (space : Space) : List Callback := space.hot.flatMap (fun p => (flushed space p).2)

def withPairs (space : Space) (objects : Table Nat Object) (pairs : List Pair) : Space :=
  ⟨objects,pairs,pairs,space.maxAoiCount,space.radius2⟩

-- The three parts of a message: what flush leaves, the modes without move, the candidates.
structure Messaged (space : Space) (result : Space × List Callback) (left pushed : Table Nat Object)
    (candidates : List (Nat × Nat)) : Prop where
  counting : Counting space.object left
  counted : Counted left (stays space)
  lookup : ∀ j, pushed.lookup j = (left.lookup j).map Object.still
  candidate : ∀ w m, (w,m) ∈ candidates ↔ Watches left w ∧ Marks left m ∧
    ((query left w).mode.move = true ∨ (query left m).mode.move = true)
  generated : Generated (withPairs space pushed (stays space),flushCalls space) candidates result

theorem watches_query {objects : Table Nat Object} {j : Nat} : Watches objects j ↔ j ∈ objects ∧ (query objects j).mode.watcher = true := by
  constructor
  · rintro ⟨obj,found,watcher⟩
    rw [query_some found]
    exact ⟨Table.mem_of_lookup found,watcher⟩
  · rintro ⟨mem,watcher⟩
    obtain ⟨obj,found⟩ := Table.lookup_of_mem mem
    rw [query_some found] at watcher
    exact ⟨obj,found,watcher⟩

theorem marks_query {objects : Table Nat Object} {j : Nat} : Marks objects j ↔ j ∈ objects ∧ (query objects j).mode.marker = true := by
  constructor
  · rintro ⟨obj,found,marker⟩
    rw [query_some found]
    exact ⟨Table.mem_of_lookup found,marker⟩
  · rintro ⟨mem,marker⟩
    obtain ⟨obj,found⟩ := Table.lookup_of_mem mem
    rw [query_some found] at marker
    exact ⟨obj,found,marker⟩

theorem counted_still {objects later : Table Nat Object} {pairs : List Pair} (counted : Counted objects pairs)
    (lookup : ∀ j, later.lookup j = (objects.lookup j).map Object.still) : Counted later pairs := by
  have before {id obj} (found : later.lookup id = some obj) : ∃ old, objects.lookup id = some old ∧ obj.ref = old.ref ∧
      obj.aoiCount = old.aoiCount ∧ obj.mode.drop = old.mode.drop := by
    rw [lookup] at found
    obtain ⟨old,there,rfl⟩ := Option.map_eq_some_iff.mp found
    refine ⟨old,there,?_⟩
    unfold Object.still
    split <;> exact ⟨rfl,rfl,rfl⟩
  refine ⟨?_,?_,?_,?_⟩
  · intro id obj found
    obtain ⟨old,there,ref,_,drop⟩ := before found
    rw [ref,drop]
    exact counted.ref there
  · intro id obj found
    obtain ⟨old,there,ref,_⟩ := before found
    rw [ref]
    exact counted.live there
  · intro id obj found
    obtain ⟨old,there,_,count,_⟩ := before found
    rw [count]
    exact counted.aoiCount there
  · intro p mem
    rw [lookup,lookup,Option.isSome_map,Option.isSome_map]
    exact counted.there p mem

theorem product_mem {left right : List Nat} : (w,m) ∈ left.product right ↔ w ∈ left ∧ m ∈ right := List.pair_mem_product

theorem aoiMessage_messaged (order : Order Nat) (counted : Counted space.object space.hot) (pairHash : space.pairHash = space.hot)
    (distinct : (space.hot.map Pair.key).Nodup) :
    ∃ left pushed candidates, Messaged space (aoiMessage order space) left pushed candidates := by
  have flush := flushPairs_flushed space.hot [] space counted pairHash (List.Nodup.of_map _ distinct)
  unfold aoiMessage flushPair
  generalize flushPairs space.hot space = result at flush ⊢
  obtain ⟨kept,calls,after⟩ := result
  obtain ⟨keptSame,callsSame,counted,counting,hash,radius2,maxAoiCount⟩ := flush
  dsimp only [List.nil_append] at keptSame callsSame counted counting hash radius2 maxAoiCount
  have push := push_pushed (order.visit after.object.keys) (order.nodup_visit after.object.nodupKeys) (⟨[],[],[],[]⟩,after.object)
  dsimp only
  generalize (order.visit after.object.keys).foldl setPush (⟨[],[],[],[]⟩,after.object) = pair at push ⊢
  obtain ⟨sets,pushed⟩ := pair
  have visited (j) : j ∈ order.visit after.object.keys ↔ j ∈ after.object := order.mem_visit
  have lookup (j) : pushed.lookup j = (after.object.lookup j).map Object.still := by
    have done := push.lookup j
    split at done
    · exact done
    · rename_i absent
      rw [visited] at absent
      have none := AList.lookup_eq_none.mpr absent
      dsimp only at done
      rw [done,none]
      rfl
  have start : (({after with hot:=kept, object:=pushed} : Space),calls) =
      (withPairs space pushed (stays space),flushCalls space) := by
    rw [← show kept = stays space from keptSame,← show calls = flushCalls space from callsSame,withPairs,← radius2,← maxAoiCount,
      ← hash]
  let candidates := sets.watcherStatic.product sets.markerMove++sets.watcherMove.product sets.markerStatic++
    sets.watcherMove.product sets.markerMove
  have candidate (w m) : (w,m) ∈ candidates ↔ Watches after.object w ∧ Marks after.object m ∧
      ((query after.object w).mode.move = true ∨ (query after.object m).mode.move = true) := by
    simp only [candidates,List.mem_append,product_mem,push.watcherStatic,push.markerMove,push.watcherMove,push.markerStatic,visited,
      List.not_mem_nil,false_or,watches_query,marks_query]
    cases (query after.object w).mode.move <;> cases (query after.object m).mode.move <;> grind
  refine ⟨after.object,pushed,candidates,counting,?_,lookup,candidate,?_⟩
  · rw [← show kept = stays space from keptSame]
    exact counted
  · unfold genPairList
    rw [← List.foldl_append,← List.foldl_append,← List.append_assoc]
    change Generated _ _ (candidates.foldl genPair ({after with hot:=kept, object:=pushed},calls))
    rw [start]
    apply genPair_generated
    · rw [keptSame] at counted
      exact counted_still counted lookup
    · rfl
    · exact distinct.sublist (List.Sublist.map _ List.filter_sublist)
    · intro ids mem
      obtain ⟨⟨_,watcher,_⟩,⟨_,marker,_⟩,_⟩ := (candidate ids.1 ids.2).mp mem
      change (pushed.lookup ids.1).isSome = true ∧ (pushed.lookup ids.2).isSome = true
      rw [lookup,lookup,watcher,marker]
      exact ⟨rfl,rfl⟩

end Message

section Replay
variable {space : Space} {w : Nat} {seen : Finset Nat}

theorem replay_append (w : Nat) (earlier later : List Entry) :
    replay w (earlier++later) = later.foldl (replayOne w) (replay w earlier) := List.foldl_append

def tell (w : Nat) (seen : Finset Nat) (calls : List Callback) : Finset Nat := (calls.map Entry.delivered).foldl (replayOne w) seen

theorem tell_append (w : Nat) (seen : Finset Nat) (earlier later : List Callback) :
    tell w seen (earlier++later) = tell w (tell w seen earlier) later := by
  unfold tell
  rw [List.map_append,List.foldl_append]

theorem tell_other (others : ∀ c ∈ calls, c.watcher ≠ w) : tell w seen calls = seen := by
  induction calls generalizing seen with
  | nil => rfl
  | cons c rest ih =>
    have first : replayOne w seen (.delivered c) = seen := if_neg (others c (List.mem_cons_self ..))
    change tell w (replayOne w seen (.delivered c)) rest = seen
    rw [first]
    exact ih (fun c mem => others c (List.mem_cons_of_mem _ mem))

theorem flushed_watcher (p : Pair) (c : Callback) (mem : c ∈ (flushed space p).2) : c.watcher = p.watcher := by
  unfold flushed flushOne at mem
  split at mem
  · split at mem
    · rw [List.mem_singleton.mp mem]
      rfl
    · cases mem
  · split at mem
    · rw [List.mem_singleton.mp mem]
      rfl
    · split at mem
      · rw [List.mem_singleton.mp mem]
        rfl
      · cases mem

-- A watcher that stays hears of every pair that goes.
theorem flushed_told (p : Pair) (here : (query space.object p.watcher).mode.drop = false) (m : Nat) (known : p.marker ∈ seen) :
    m ∈ tell p.watcher seen (flushed space p).2 ↔ m ∈ seen ∧ (p.marker = m → (flushed space p).1 = true) := by
  have same : insert p.marker seen = seen := Finset.insert_eq_of_mem known
  unfold flushed flushOne
  rw [here]
  simp only [Bool.false_or]
  split
  · simp [tell,replayOne,call,eq_comm,and_comm]
  · split
    · simp [tell,replayOne,call,eq_comm,and_comm]
    · split <;> simp [tell,replayOne,call,same]

theorem flush_told (pairs : List Pair) (distinct : (pairs.map (fun p => (p.watcher,p.marker))).Nodup)
    (here : (query space.object w).mode.drop = false) (known : ∀ p ∈ pairs, p.watcher = w → p.marker ∈ seen) (m : Nat) :
    m ∈ tell w seen (pairs.flatMap (fun p => (flushed space p).2)) ↔
      m ∈ seen ∧ ∀ p ∈ pairs, p.watcher = w → p.marker = m → (flushed space p).1 = true := by
  induction pairs generalizing seen with
  | nil => simp [tell]
  | cons p rest ih =>
    rw [List.map_cons,List.nodup_cons] at distinct
    obtain ⟨fresh,distinct⟩ := distinct
    rw [List.flatMap_cons,tell_append]
    by_cases mine : p.watcher = w
    · subst mine
      have told (m) := flushed_told p here m (known p (List.mem_cons_self ..) rfl)
      have still : ∀ q ∈ rest, q.watcher = p.watcher → q.marker ∈ tell p.watcher seen (flushed space p).2 := by
        intro q mem same
        rw [told]
        refine ⟨known q (List.mem_cons_of_mem _ mem) same,?_⟩
        intro twice
        refine absurd ?_ fresh
        rw [twice,← same]
        exact List.mem_map_of_mem mem
      rw [ih distinct still,told]
      simp only [List.forall_mem_cons,and_assoc,forall_const]
    · rw [tell_other (fun c mem => (flushed_watcher p c mem).trans_ne mine)]
      rw [ih distinct (fun q mem same => known q (List.mem_cons_of_mem _ mem) same)]
      simp only [List.forall_mem_cons,mine,false_implies,true_and]

theorem generated_told {new : List Pair} {calls : List Callback}
    (listed : calls.map (fun c => (c.watcher,c.marker,c.action)) = new.map (fun p => (p.watcher,p.marker,Action.m))) (m : Nat) :
    m ∈ tell w seen calls ↔ m ∈ seen ∨ InHot new w m := by
  induction calls generalizing seen new with
  | nil =>
    cases new with
    | nil => simp [tell,InHot]
    | cons p rest => cases listed
  | cons c calls ih =>
    cases new with
    | nil => cases listed
    | cons p rest =>
      simp only [List.map_cons,List.cons.injEq,Prod.mk.injEq] at listed
      obtain ⟨⟨watcher,marker,action⟩,listed⟩ := listed
      change m ∈ tell w (replayOne w seen (.delivered c)) calls ↔ _
      rw [ih listed]
      unfold InHot replayOne
      simp only [watcher,marker,action,List.exists_mem_cons_iff]
      split
      · rename_i mine
        simp only [Finset.mem_insert,mine,true_and]
        grind
      · rename_i other
        simp only [other,false_and,false_or]

end Replay
end OriginGame.Aoi
