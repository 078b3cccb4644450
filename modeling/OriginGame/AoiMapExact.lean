import OriginGame.AoiMapInsert

namespace OriginGame.AoiMap

variable {α σ : Type}

inductive Event (α : Type) where
  | created (id : Nat) (obj : α)
  | dropped (id : Nat)

inductive Call where
  | query (id : Nat)
  | drop (id : Nat)

def Call.id : Call → Nat
  | .query id => id
  | .drop id => id

-- The object most recently created for an id and not dropped since; the latest event comes first.
def latest (id : Nat) : List (Event α) → Option α
  | [] => none
  | .created j obj::earlier => if j = id then some obj else latest id earlier
  | .dropped j::earlier => if j = id then none else latest id earlier

-- new_object, with a record of what it creates.
def logged (newObject : σ → Nat → α × σ) (space : σ × List (Event α)) (id : Nat) : α × σ × List (Event α) :=
  let (obj,after) := newObject space.1 id
  (obj,after,.created id obj::space.2)

abbrev State (σ α : Type) := (σ × List (Event α)) × Map α

def step (newObject : σ → Nat → α × σ) (fuel : Nat) (state : State σ α) : Call → Option (Option α × State σ α)
  | .query id => (mapQuery (logged newObject) fuel state.1 state.2 id).map (fun (obj,space,m) => (some obj,space,m))
  | .drop id => (mapDrop fuel state.2 id).map (fun (obj,m) => (obj,(state.1.1,.dropped id::state.1.2),m))

-- What each call of a sequence answers, and what comes of the map.
def run (newObject : σ → Nat → α × σ) (fuel : Nat) : List Call → State σ α → Option (List (Option α) × State σ α)
  | [],state => some ([],state)
  | call::rest,state => do
    let (answer,state) ← step newObject fuel state call
    let (answers,state) ← run newObject fuel rest state
    some (answer::answers,state)

-- What the calls are for: an id stands for its latest object.
def answer (newObject : σ → Nat → α × σ) (space : σ × List (Event α)) : Call → Option α × σ × List (Event α)
  | .query id =>
    match latest id space.2 with
    | some obj => (some obj,space)
    | none => (some (newObject space.1 id).1,(newObject space.1 id).2,.created id (newObject space.1 id).1::space.2)
  | .drop id => (latest id space.2,space.1,.dropped id::space.2)

def answers (newObject : σ → Nat → α × σ) : List Call → σ × List (Event α) → List (Option α) × σ × List (Event α)
  | [],space => ([],space)
  | call::rest,space =>
    let (first,space) := answer newObject space call
    let (others,space) := answers newObject rest space
    (first::others,space)

variable {m after : Map α} {chain : Nat → List Nat} {slot : Slot α} {fuel id i j s n : Nat} {obj o : α} {space : σ}
variable {newObject : σ → Nat → α × σ}

section Calls

-- Only an object changes hands.
theorem set_chained (chained : Chained m chain) (there : m.slot[s]? = some slot) (used : m.idAt s = some id) (held : Option α) :
    Chained (m.put s {slot with obj:=held}) chain := by
  have inside := idAt_inside used
  have idAt (i) : (m.put s {slot with obj:=held}).idAt i = m.idAt i := by
    rw [put_idAt inside]
    split
    · rename_i same
      rw [same,idAt_slot there]
      rfl
    · rfl
  have next : (m.put s {slot with obj:=held}).next = m.next := by
    funext i
    rw [put_next inside]
    split
    · rename_i same
      rw [same,next_slot there]
    · rfl
  refine ⟨by rw [put_size]; exact chained.sized,?_,?_,?_,?_,?_,by rw [put_size]; exact chained.scanned.1,?_⟩
  · rw [next]
    exact chained.path
  · simp only [idAt,put_mainposition]
    exact chained.mem
  · simp only [idAt]
    exact chained.small
  · simp only [idAt]
    exact chained.once
  · intro i
    rw [idAt,next,put_objAt inside]
    intro free
    refine ⟨(chained.free free).1,?_⟩
    rw [if_neg]
    · exact (chained.free free).2
    · rintro rfl
      rw [used] at free
      cases free
  · intro i
    rw [idAt,put_size]
    exact chained.scanned.2 i

theorem set_holds (chained : Chained m chain) (there : m.slot[s]? = some slot) (used : m.idAt s = some id) (held : Option α) (j : Nat) (o : α) :
    Holds (m.put s {slot with obj:=held}) j o ↔ j = id ∧ held = some o ∨ j ≠ id ∧ Holds m j o := by
  have inside := idAt_inside used
  have other {i j} (away : j ≠ id) (own : m.idAt i = some j) : i ≠ s := by
    rintro rfl
    rw [used] at own
    cases own
    exact away rfl
  constructor
  · rintro ⟨i,own,there'⟩
    rw [put_idAt inside] at own
    rw [put_objAt inside] at there'
    split at own
    · rename_i here
      rw [if_pos here] at there'
      have same : m.idAt s = some j := (idAt_slot there).trans own
      rw [used] at same
      cases same
      exact .inl ⟨rfl,there'⟩
    · rename_i away
      rw [if_neg away] at there'
      refine .inr ⟨?_,i,own,there'⟩
      rintro rfl
      exact away (chained.once own used)
  · rintro (⟨rfl,new⟩ | ⟨away,i,own,there'⟩)
    · refine ⟨s,?_,?_⟩
      · rw [put_idAt inside,if_pos rfl,←used,idAt_slot there]
        rfl
      · rw [put_objAt inside,if_pos rfl]
        exact new
    · refine ⟨i,?_,?_⟩
      · rw [put_idAt inside,if_neg (other away own)]
        exact own
      · rw [put_objAt inside,if_neg (other away own)]
        exact there'

theorem set_vacant (there : m.slot[s]? = some slot) (held : Option α) : (m.put s {slot with obj:=held}).vacant = m.vacant := by
  have count := put_vacant there ({slot with obj:=held} : Slot α)
  dsimp only at count
  omega

-- A query hands out the object there is, or a fresh one.
theorem query_keeps (newObject : σ → Nat → α × σ) (space : σ) (sound : Sound m) (small : id < 2^32) (enough : 2*m.size+2 < fuel) :
    (∃ obj, Holds m id obj ∧ mapQuery newObject fuel space m id = some (obj,space,m)) ∨
    (∀ obj, ¬ Holds m id obj) ∧ ∃ after, mapQuery newObject fuel space m id = some ((newObject space id).1,(newObject space id).2,after) ∧
      Sound after ∧ (∀ j o, Holds after j o ↔ j = id ∧ o = (newObject space id).1 ∨ Holds m j o) ∧ Grows m after := by
  obtain ⟨chain,chained⟩ := sound
  obtain ⟨found,followed,exact⟩ := follow_id chained small (by omega : m.size ≤ fuel)
  unfold mapQuery
  simp only [followed,Option.bind_eq_bind,Option.bind_some]
  cases found with
  | some s =>
    have used := (exact s).mp rfl
    obtain ⟨slot,there⟩ := slot_there (idAt_inside used)
    simp only [there,Option.bind_some]
    cases held : slot.obj with
    | some obj => exact .inl ⟨obj,⟨s,used,(objAt_slot there).trans held⟩,rfl⟩
    | none =>
      have nothing (o) : ¬ Holds m id o := by
        rintro ⟨i,own,there'⟩
        rw [chained.once own used,objAt_slot there,held] at there'
        cases there'
      refine .inr ⟨nothing,_,rfl,⟨chain,set_chained chained there used _⟩,?_,.inl ⟨put_size ..,?_⟩⟩
      · intro j o
        rw [set_holds chained there used,Option.some_inj,eq_comm (a:=o)]
        refine or_congr_right ⟨And.right,fun old => ⟨?_,old⟩⟩
        rintro rfl
        exact nothing o old
      · rw [set_vacant there]
        omega
  | none =>
    have absent : ¬ Present m id := fun ⟨i,used⟩ => by cases (exact i).mpr used
    obtain ⟨after,done,inserted,grows⟩ := insert_keeps (newObject space id).1 ⟨chain,chained⟩ small absent enough
    refine .inr ⟨fun o ⟨i,used,_⟩ => absent ⟨i,used⟩,after,?_,inserted.sound,inserted.holds,grows⟩
    simp only [done,Option.bind_some]

theorem drop_keeps (sound : Sound m) (small : id < 2^32) (enough : m.size ≤ fuel) :
    ∃ dropped after, mapDrop fuel m id = some (dropped,after) ∧ (∀ o, dropped = some o ↔ Holds m id o) ∧ Sound after ∧
      (∀ j o, Holds after j o ↔ j ≠ id ∧ Holds m j o) ∧ after.size = m.size ∧ after.vacant = m.vacant := by
  obtain ⟨chain,chained⟩ := sound
  obtain ⟨found,followed,exact⟩ := follow_id chained small enough
  unfold mapDrop
  simp only [followed,Option.bind_eq_bind,Option.bind_some]
  cases found with
  | some s =>
    have used := (exact s).mp rfl
    obtain ⟨slot,there⟩ := slot_there (idAt_inside used)
    simp only [there,Option.bind_some]
    refine ⟨_,_,rfl,?_,⟨chain,set_chained chained there used none⟩,?_,put_size ..,set_vacant there none⟩
    · intro o
      constructor
      · intro held
        exact ⟨s,used,(objAt_slot there).trans held⟩
      · rintro ⟨i,own,there'⟩
        rw [chained.once own used,objAt_slot there] at there'
        exact there'
    · intro j o
      rw [set_holds chained there used]
      simp
  | none =>
    have absent (o) : ¬ Holds m id o := fun ⟨i,used,_⟩ => by cases (exact i).mpr used
    refine ⟨none,m,rfl,?_,⟨chain,chained⟩,?_,rfl,rfl⟩
    · intro o
      exact ⟨fun h => (by cases h),fun held => absurd held (absent o)⟩
    · intro j o
      refine ⟨fun held => ⟨?_,held⟩,And.right⟩
      rintro rfl
      exact absent o held

end Calls

section Run

-- The table after n calls: what it holds, and how large it can be.
structure Kept (log : List (Event α)) (n : Nat) (m : Map α) : Prop where
  sound : Sound m
  holds : ∀ id obj, Holds m id obj ↔ latest id log = some obj
  filled : m.size ≤ m.vacant+n
  size : m.size ≤ preAlloc ∨ m.size ≤ 2*n

variable {log : List (Event α)}

theorem kept_start : Kept ([] : List (Event α)) 0 (mapNew preAlloc) where
  sound := ⟨_,mapNew_chained (by decide)⟩
  holds id obj := by
    refine ⟨fun ⟨i,used,_⟩ => ?_,fun h => by cases h⟩
    rw [mapNew_idAt] at used
    cases used
  filled := by
    rw [mapNew_vacant]
    exact (List.length_replicate ..).le
  size := .inl (List.length_replicate ..).le

theorem Kept.grows (kept : Kept log n m) (grows : Grows m after) :
    after.size ≤ after.vacant+(n+1) ∧ (after.size ≤ preAlloc ∨ after.size ≤ 2*(n+1)) := by
  obtain ⟨_,_,filled,size⟩ := kept
  rcases grows with ⟨same,fewer⟩ | ⟨none,double,half⟩ <;> omega

-- One call answers as it should and keeps the table.
theorem step_keeps (newObject : σ → Nat → α × σ) (space : σ) (kept : Kept log n m) (call : Call) (small : call.id < 2^32) (enough : 2*m.size+2 < fuel) :
    ∃ after, step newObject fuel ((space,log),m) call =
        some ((answer newObject (space,log) call).1,(answer newObject (space,log) call).2,after) ∧
      Kept (answer newObject (space,log) call).2.2 (n+1) after ∧ after.size ≤ 2*m.size := by
  cases call with
  | query id =>
    change id < 2^32 at small
    rcases query_keeps (logged newObject) (space,log) kept.sound small enough with
      ⟨obj,held,done⟩ | ⟨nothing,after,done,sound,holds,grows⟩
    · have there := (kept.holds id obj).mp held
      refine ⟨m,?_,?_,by omega⟩
      · simp only [step,done,answer,there,Option.map_some]
      · obtain ⟨filled,size⟩ := kept.grows (.inl ⟨rfl,Nat.le_succ _⟩)
        simp only [answer,there]
        exact ⟨kept.sound,kept.holds,filled,size⟩
    · have none : latest id log = none := by
        cases there : latest id log with
        | none => rfl
        | some obj => exact absurd ((kept.holds id obj).mpr there) (nothing obj)
      refine ⟨after,?_,?_,?_⟩
      · simp only [step,done,answer,none,Option.map_some,logged]
      · obtain ⟨filled,size⟩ := kept.grows grows
        simp only [answer,none]
        refine ⟨sound,?_,filled,size⟩
        intro j o
        rw [holds,kept.holds,latest]
        by_cases same : id = j
        · subst same
          simp [none,logged,eq_comm]
        · simp [same,Ne.symm same]
      · rcases grows with ⟨same,_⟩ | ⟨_,double,_⟩ <;> omega
  | drop id =>
    change id < 2^32 at small
    obtain ⟨dropped,after,done,exact,sound,holds,size,vacant⟩ := drop_keeps kept.sound small (by omega : m.size ≤ fuel)
    have same : dropped = latest id log := Option.ext (fun o => (exact o).trans (kept.holds id o))
    refine ⟨after,?_,?_,by omega⟩
    · simp only [step,done,answer,same,Option.map_some]
    · have grown : Grows m after := .inl ⟨size,by omega⟩
      obtain ⟨filled,larger⟩ := kept.grows grown
      refine ⟨sound,?_,filled,larger⟩
      intro j o
      change _ ↔ (if id = j then none else latest j log) = some o
      rw [holds,kept.holds]
      by_cases here : id = j
      · simp [here]
      · simp [here,Ne.symm here]

theorem run_keeps (newObject : σ → Nat → α × σ) (calls : List Call) (small : ∀ call ∈ calls, call.id < 2^32) :
    ∀ (space : σ) (log : List (Event α)) (n size : Nat), ∃ enough, ∀ fuel ≥ enough, ∀ m, Kept log n m → m.size ≤ size →
      ∃ after, run newObject fuel calls ((space,log),m) =
          some ((answers newObject calls (space,log)).1,(answers newObject calls (space,log)).2,after) ∧
        Kept (answers newObject calls (space,log)).2.2 (n+calls.length) after := by
  induction calls with
  | nil =>
    intro space log n size
    exact ⟨0,fun fuel _ m kept _ => ⟨m,rfl,kept⟩⟩
  | cons call rest ih =>
    intro space log n size
    obtain ⟨mine,others⟩ := List.forall_mem_cons.mp small
    obtain ⟨enough,later⟩ := ih others (answer newObject (space,log) call).2.1 (answer newObject (space,log) call).2.2 (n+1) (2*size)
    refine ⟨enough+2*size+3,?_⟩
    intro fuel more m kept below
    obtain ⟨middle,one,keeps,grown⟩ := step_keeps newObject space kept call mine (by omega : 2*m.size+2 < fuel)
    obtain ⟨after,done,last⟩ := later fuel (by omega) middle keeps (by omega)
    refine ⟨after,?_,?_⟩
    · simp only [run,one,Option.bind_eq_bind,Option.bind_some,done,answers]
    · rw [List.length_cons,Nat.add_comm rest.length 1,←Nat.add_assoc]
      exact last

-- Every sequence of calls comes to an end, each call with the answer it should have.
theorem map_exact (newObject : σ → Nat → α × σ) (space : σ) (calls : List Call) (small : ∀ call ∈ calls, call.id < 2^32) :
    ∃ enough, ∀ fuel ≥ enough, ∃ m, run newObject fuel calls ((space,[]),mapNew preAlloc) =
        some ((answers newObject calls (space,[])).1,(answers newObject calls (space,[])).2,m) ∧
      (∀ id obj, Holds m id obj ↔ latest id (answers newObject calls (space,[])).2.2 = some obj) ∧
      (m.size ≤ preAlloc ∨ m.size ≤ 2*calls.length) := by
  obtain ⟨enough,each⟩ := run_keeps newObject calls small space [] 0 preAlloc
  refine ⟨enough,?_⟩
  intro fuel more
  obtain ⟨m,done,kept⟩ := each fuel more (mapNew preAlloc) kept_start (List.length_replicate ..).le
  refine ⟨m,done,kept.holds,?_⟩
  rw [←Nat.zero_add calls.length]
  exact kept.size

-- 1 and 17 share their main position; 1 leaves a slot without an object there.
theorem shared_exact : ∃ enough, ∀ fuel ≥ enough, ∃ log m,
    run (fun n id => ((id,n),n+1)) fuel [.query 1,.query 17,.drop 1,.query 17,.query 1] ((0,[]),mapNew preAlloc) =
      some ([some (1,0),some (17,1),some (1,0),some (17,1),some (1,2)],log,m) := by
  obtain ⟨enough,each⟩ := map_exact (fun n id => ((id,n),n+1)) 0 [.query 1,.query 17,.drop 1,.query 17,.query 1] (by
    simp [Call.id])
  refine ⟨enough,?_⟩
  intro fuel more
  obtain ⟨m,done,_⟩ := each fuel more
  exact ⟨_,m,done⟩

end Run

end OriginGame.AoiMap
