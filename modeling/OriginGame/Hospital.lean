import OriginGame.Gains
import OriginGame.Handlers
import OriginGame.LuaTable

namespace OriginGame.Hospital

structure Soldier where
  id : Nat
  type : Int
  level : Int
  num : Int

-- A row of seriousInjured; its id is its key.
structure Injured where
  type : Int
  level : Int
  num : Int

structure SoldierInfo where
  type : Int
  level : Int
  num : Int
  minor : Int

-- What subSeriousInLock hands out of one kind.
structure AddSoldier where
  num : Int
  minor : Int

abbrev AddSoldierInfo := Table Nat AddSoldier

structure Subtraction where
  seriousInjured : Table Nat Injured
  treatmentSum : Int
  addSoldierInfo : AddSoldierInfo

-- One round of the loop: the full amount is handed out, a row or not.
def subtract (s : Subtraction) (treatmentSoldier : Soldier) : Subtraction where
  seriousInjured := match s.seriousInjured.lookup treatmentSoldier.id with
    | some row => s.seriousInjured.insert treatmentSoldier.id {row with num:=row.num-treatmentSoldier.num}
    | none => s.seriousInjured
  treatmentSum := s.treatmentSum+treatmentSoldier.num
  addSoldierInfo :=
    let row := (s.addSoldierInfo.lookup treatmentSoldier.id).getD ⟨0,0⟩
    s.addSoldierInfo.insert treatmentSoldier.id {row with num:=row.num+treatmentSoldier.num}

-- Rows that are empty or below zero go.
def subSeriousInLock (soldiers : List Soldier) (seriousInjured : Table Nat Injured) : Subtraction :=
  let s := soldiers.foldl subtract ⟨seriousInjured,0,∅⟩
  {s with seriousInjured:=Table.keepValues (fun row => decide (0 < row.num)) s.seriousInjured}

def addSerious (seriousInjured : Table Nat Injured) (soldierInfo : Soldier) : Table Nat Injured :=
  let row := (seriousInjured.lookup soldierInfo.id).getD ⟨soldierInfo.type,soldierInfo.level,0⟩
  seriousInjured.insert soldierInfo.id {row with num:=row.num+soldierInfo.num}

def addSeriousInLock (soldiers : List Soldier) (seriousInjured : Table Nat Injured) : Table Nat Injured :=
  soldiers.foldl addSerious seriousInjured

-- A negative number is logged and not added; s_Arms gives the type and level of a new kind.
def addSoldierOf (s_Arms : Nat → Int × Int) (soldiers : Table Nat SoldierInfo) (soldierId : Nat) (soldierInfo : AddSoldier) : Table Nat SoldierInfo :=
  match soldiers.lookup soldierId with
  | some row => soldiers.insert soldierId {row with
      num := if 0 ≤ soldierInfo.num then row.num+soldierInfo.num else row.num
      minor := if 0 ≤ soldierInfo.minor then row.minor+soldierInfo.minor else row.minor}
  | none =>
    if 0 < soldierInfo.num ∨ 0 < soldierInfo.minor then
      soldiers.insert soldierId ⟨(s_Arms soldierId).1,(s_Arms soldierId).2,soldierInfo.num,soldierInfo.minor⟩
    else soldiers

def addSoldiersInLock (order : Order Nat) (s_Arms : Nat → Int × Int) (added : AddSoldierInfo) (soldiers : Table Nat SoldierInfo) : Table Nat SoldierInfo :=
  (order.visit added.keys).foldl (fun soldiers soldierId => (added.lookup soldierId).elim soldiers (addSoldierOf s_Arms soldiers soldierId)) soldiers

structure TreatmentQueue where
  finishTime : Int
  treatmentSoldiers : List Soldier

-- One role. No queue is the empty table a role begins with. The last five fields are
-- for the proofs: treatments are numbered as the queue gets them, an award takes the
-- one it reads and credits it when its soldiers are back.
structure State where
  seriousInjured : Table Nat Injured
  soldiers : Table Nat SoldierInfo
  treatmentQueue : Option TreatmentQueue
  made : Nat
  current : Option Nat
  taken : List Nat
  credited : List Nat
  added : List Soldier

inductive Request where
  | treatment (soldiers : List Soldier) (maxNum : Int) (upgrading afford : Bool)
  | immediately (soldiers : List Soldier) (flag : Bool)
  | immediatelyQueue (flag : Bool)
  | awardTreatment (now : Int)
  | addToHospital (soldiers : List Soldier)

-- What a handler waits to do next.
inductive Task where
  | treat (soldiers : List Soldier)
  | heal (soldiers : List Soldier)
  | award
  | sub (soldiers : List Soldier) (treatment : Option Nat)
  | clear (added : AddSoldierInfo) (treatment : Option Nat)
  | add (added : AddSoldierInfo) (treatment : Option Nat)
  | serious (soldiers : List Soldier)

section hospital
variable (order : Order Nat) (s_Arms : Nat → Int × Int)

-- A comparison with the finishTime of an empty queue raises. addToHospital posts what
-- its capacity leaves, and the service that gets the post has the queue of the role.
def enter (request : Request) (s : State) : State × Option Task :=
  match request with
  | .treatment soldiers maxNum upgrading afford =>
    if maxNum < (soldiers.map (·.num)).sum then (s,none)
    else if s.treatmentQueue.any (fun queue => decide (0 < queue.finishTime)) then (s,none)
    else if upgrading then (s,none)
    else if afford then (s,some (.treat soldiers))
    else (s,none)
  | .immediately soldiers flag => (s,if flag then some (.heal soldiers) else none)
  | .immediatelyQueue flag => (s,if s.treatmentQueue.isSome && flag then some .award else none)
  | .awardTreatment now =>
    match s.treatmentQueue with
    | none => (s,none)
    | some queue =>
      if now < queue.finishTime then (s,none)
      else if queue.treatmentSoldiers.isEmpty then (s,none)
      else (s,some .award)
  | .addToHospital soldiers => (s,some (.serious soldiers))

-- SeriousInjureMgr and SoldierLockMgr have a queue for the role, so each of their
-- calls is one step.
def resume (finishTime : Int) (task : Task) (s : State) : State × Option Task :=
  match task with
  | .treat soldiers => ({s with treatmentQueue:=some ⟨finishTime,soldiers⟩, made:=s.made+1, current:=some s.made},none)
  | .heal soldiers =>
    let sub := subSeriousInLock soldiers s.seriousInjured
    ({s with seriousInjured:=sub.seriousInjured},some (.add sub.addSoldierInfo none))
  | .award =>
    match s.treatmentQueue with
    | none => (s,none)
    | some queue => ({s with taken:=s.current.toList++s.taken},some (.sub queue.treatmentSoldiers s.current))
  | .sub soldiers treatment =>
    let sub := subSeriousInLock soldiers s.seriousInjured
    ({s with seriousInjured:=sub.seriousInjured},some (.clear sub.addSoldierInfo treatment))
  | .clear added treatment => ({s with treatmentQueue:=some ⟨-1,[]⟩, current:=none},some (.add added treatment))
  | .add added treatment =>
    ({s with soldiers:=addSoldiersInLock order s_Arms added s.soldiers, credited:=treatment.toList++s.credited},none)
  | .serious soldiers =>
    ({s with seriousInjured:=addSeriousInLock soldiers s.seriousInjured, added:=soldiers++s.added},none)

end hospital
abbrev wounded (seriousInjured : Table Nat Injured) (id : Nat) : Int := seriousInjured.amount (·.num) id

abbrev healthy (soldiers : Table Nat SoldierInfo) (id : Nat) : Int := soldiers.amount (·.num) id

abbrev handed (added : AddSoldierInfo) (id : Nat) : Int := added.amount (·.num) id

def asked (soldiers : List Soldier) (id : Nat) : Int := Gains.total (soldiers.map (fun soldier => (soldier.id,soldier.num))) id

-- There are as many wounded as the request names.
def Found (seriousInjured : Table Nat Injured) (soldiers : List Soldier) : Prop :=
  ∀ soldier ∈ soldiers, 0 ≤ asked soldiers soldier.id ∧ asked soldiers soldier.id ≤ wounded seriousInjured soldier.id

-- Only wounded that are there are healed, a treatment is put where none is, and an award
-- reads and clears a treatment of its own.
def Orderly (s : State) : Event Request Task Int → Prop
  | .call (.addToHospital soldiers) => ∀ soldier ∈ soldiers, 0 ≤ soldier.num
  | .call _ => True
  | .resume (.treat _) _ => s.current = none
  | .resume (.heal soldiers) _ | .resume (.sub soldiers _) _ => Found s.seriousInjured soldiers
  | .resume .award _ => ∀ treatment ∈ s.current, treatment ∉ s.taken
  | .resume (.clear _ treatment) _ => s.current = treatment
  | .resume _ _ => True

section amounts
variable {soldiers : List Soldier} {seriousInjured : Table Nat Injured} {id : Nat}

@[simp] theorem asked_nil (id : Nat) : asked [] id = 0 := rfl

theorem asked_cons (soldier : Soldier) (soldiers : List Soldier) (id : Nat) :
    asked (soldier::soldiers) id = (if soldier.id = id then soldier.num else 0)+asked soldiers id := Gains.total_cons _ _ _

theorem asked_append (first second : List Soldier) (id : Nat) : asked (first++second) id = asked first id+asked second id := by
  rw [asked,List.map_append]
  exact Gains.total_append _ _ _

theorem asked_nonneg (nonneg : ∀ soldier ∈ soldiers, 0 ≤ soldier.num) (id : Nat) : 0 ≤ asked soldiers id := by
  induction soldiers with
  | nil => exact le_refl _
  | cons soldier rest ih =>
    rw [asked_cons]
    have first := nonneg soldier List.mem_cons_self
    have others := ih (fun other mem => nonneg other (List.mem_cons_of_mem _ mem))
    split <;> omega

theorem asked_absent (absent : ∀ soldier ∈ soldiers, soldier.id ≠ id) : asked soldiers id = 0 := by
  induction soldiers with
  | nil => rfl
  | cons soldier rest ih =>
    rw [asked_cons,if_neg (absent soldier List.mem_cons_self),ih (fun other mem => absent other (List.mem_cons_of_mem _ mem))]
    rfl

theorem Found.every (found : Found seriousInjured soldiers) (nonneg : ∀ id, 0 ≤ wounded seriousInjured id) (id : Nat) :
    0 ≤ asked soldiers id ∧ asked soldiers id ≤ wounded seriousInjured id := by
  by_cases named : ∃ soldier ∈ soldiers, soldier.id = id
  · obtain ⟨soldier,mem,rfl⟩ := named
    exact found soldier mem
  · rw [asked_absent (fun soldier mem same => named ⟨soldier,mem,same⟩)]
    exact ⟨le_refl _,nonneg id⟩

theorem subtract_seriousInjured (s : Subtraction) (soldier : Soldier) (id : Nat) :
    (subtract s soldier).seriousInjured.lookup id = (s.seriousInjured.lookup id).map (fun row =>
      {row with num:=row.num-if soldier.id = id then soldier.num else 0}) := by
  unfold subtract
  by_cases same : soldier.id = id
  · subst same
    cases row : s.seriousInjured.lookup soldier.id with
    | none => simp only [row,Option.map_none]
    | some row => simp only [AList.lookup_insert,if_true,Option.map_some]
  · have kept : ∀ row : Option Injured, row.map (fun row => {row with num:=row.num-if soldier.id = id then soldier.num else 0}) = row := by
      intro row
      cases row with
      | none => rfl
      | some row => simp only [if_neg same,Int.sub_zero,Option.map_some]
    rw [kept]
    dsimp only
    split
    · exact AList.lookup_insert_ne (fun equal => same equal.symm)
    · rfl

theorem subtract_addSoldierInfo (s : Subtraction) (soldier : Soldier) (id : Nat) :
    handed (subtract s soldier).addSoldierInfo id = handed s.addSoldierInfo id+if soldier.id = id then soldier.num else 0 := by
  unfold handed subtract
  by_cases same : soldier.id = id
  · subst same
    rw [Table.amount_insert,if_pos rfl,Table.amount]
    cases s.addSoldierInfo.lookup soldier.id with
    | none => rfl
    | some row => rfl
  · dsimp only
    rw [Table.amount_insert_ne _ _ _ (fun equal => same equal.symm),if_neg same,Int.add_zero]

theorem subtracted (s : Subtraction) (soldiers : List Soldier) (id : Nat) :
    (soldiers.foldl subtract s).seriousInjured.lookup id = (s.seriousInjured.lookup id).map (fun row => {row with num:=row.num-asked soldiers id}) ∧
      handed (soldiers.foldl subtract s).addSoldierInfo id = handed s.addSoldierInfo id+asked soldiers id := by
  induction soldiers generalizing s with
  | nil =>
    refine ⟨?_,(Int.add_zero _).symm⟩
    cases row : s.seriousInjured.lookup id with
    | none => simp only [List.foldl_nil,row,Option.map_none]
    | some row => simp only [List.foldl_nil,row,asked_nil,Int.sub_zero,Option.map_some]
  | cons soldier rest ih =>
    obtain ⟨rows,out⟩ := ih (subtract s soldier)
    rw [List.foldl_cons,rows,out,subtract_seriousInjured,subtract_addSoldierInfo,asked_cons,Option.map_map]
    refine ⟨?_,Int.add_assoc _ _ _⟩
    congr 1
    funext row
    simp only [Function.comp_apply,Int.sub_sub]

-- What is handed out is what went, if it was there.
theorem subSeriousInLock_moves (found : Found seriousInjured soldiers) (nonneg : ∀ id, 0 ≤ wounded seriousInjured id) (id : Nat) :
    wounded (subSeriousInLock soldiers seriousInjured).seriousInjured id = wounded seriousInjured id-asked soldiers id ∧
      handed (subSeriousInLock soldiers seriousInjured).addSoldierInfo id = asked soldiers id := by
  obtain ⟨rows,out⟩ := subtracted ⟨seriousInjured,0,∅⟩ soldiers id
  obtain ⟨_,there⟩ := found.every nonneg id
  refine ⟨?_,?_⟩
  · unfold wounded Table.amount at there ⊢
    rw [subSeriousInLock,Table.lookup_keepValues,rows]
    cases row : seriousInjured.lookup id with
    | none =>
      rw [row] at there
      have none_asked := (found.every nonneg id).1
      simp only [Option.map_none,Option.getD_none] at there
      simp only [Option.map_none,Option.filter_none,Option.getD_none]
      omega
    | some row =>
      rw [row] at there
      simp only [Option.map_some,Option.getD_some,Option.filter_some,decide_eq_true_eq] at there ⊢
      split
      · rfl
      · simp only [Option.map_none,Option.getD_none]
        omega
  · rw [subSeriousInLock,out]
    simp [handed,Table.amount]

theorem addSeriousInLock_adds (soldiers : List Soldier) (seriousInjured : Table Nat Injured) (id : Nat) :
    wounded (addSeriousInLock soldiers seriousInjured) id = wounded seriousInjured id+asked soldiers id := by
  induction soldiers generalizing seriousInjured with
  | nil => exact (Int.add_zero _).symm
  | cons soldier rest ih =>
    have tail := ih (addSerious seriousInjured soldier)
    have first : wounded (addSerious seriousInjured soldier) id = wounded seriousInjured id+if soldier.id = id then soldier.num else 0 := by
      unfold wounded addSerious
      by_cases same : soldier.id = id
      · subst same
        rw [Table.amount_insert,if_pos rfl,Table.amount]
        cases seriousInjured.lookup soldier.id <;> rfl
      · rw [Table.amount_insert_ne _ _ _ (fun equal => same equal.symm),if_neg same,Int.add_zero]
    rw [asked_cons,← Int.add_assoc,← first]
    exact tail

theorem addSoldierOf_adds (s_Arms : Nat → Int × Int) (soldiers : Table Nat SoldierInfo) (soldierId : Nat) (soldierInfo : AddSoldier)
    (nonneg : 0 ≤ soldierInfo.num) (id : Nat) :
    healthy (addSoldierOf s_Arms soldiers soldierId soldierInfo) id = healthy soldiers id+if soldierId = id then soldierInfo.num else 0 := by
  unfold healthy addSoldierOf
  by_cases same : soldierId = id
  · subst same
    rw [if_pos rfl]
    cases row : soldiers.lookup soldierId with
    | none =>
      dsimp only
      rw [Table.amount_none row]
      split
      · rw [Table.amount_insert,Int.zero_add]
      · rw [Table.amount_none row]
        omega
    | some row => rw [Table.amount_insert,Table.amount_some ‹_›,if_pos nonneg]
  · rw [if_neg same,Int.add_zero]
    have other : id ≠ soldierId := fun equal => same equal.symm
    split
    · exact Table.amount_insert_ne _ _ _ other
    · split
      · exact Table.amount_insert_ne _ _ _ other
      · rfl

theorem addSoldiersInLock_adds (order : Order Nat) (s_Arms : Nat → Int × Int) {added : AddSoldierInfo} (nonneg : ∀ id, 0 ≤ handed added id)
    (soldiers : Table Nat SoldierInfo) (id : Nat) :
    healthy (addSoldiersInLock order s_Arms added soldiers) id = healthy soldiers id+handed added id := by
  -- over the keys still to come
  have loop : ∀ (keys : List Nat) (soldiers : Table Nat SoldierInfo), keys.Nodup →
      healthy (keys.foldl (fun soldiers soldierId => (added.lookup soldierId).elim soldiers (addSoldierOf s_Arms soldiers soldierId)) soldiers) id =
        healthy soldiers id+if id ∈ keys then handed added id else 0 := by
    intro keys
    induction keys with
    | nil =>
      intro soldiers _
      exact (Int.add_zero _).symm
    | cons key rest ih =>
      intro soldiers distinct
      obtain ⟨fresh,tail⟩ := List.nodup_cons.mp distinct
      rw [List.foldl_cons,ih _ tail]
      have one : healthy ((added.lookup key).elim soldiers (addSoldierOf s_Arms soldiers key)) id =
          healthy soldiers id+if key = id then handed added id else 0 := by
        cases row : added.lookup key with
        | none =>
          split
          · rename_i same
            rw [← same,handed,Table.amount_none row]
            exact (Int.add_zero _).symm
          · exact (Int.add_zero _).symm
        | some row =>
          have here := nonneg key
          rw [handed,Table.amount_some ‹_›] at here
          rw [Option.elim_some,addSoldierOf_adds _ _ _ _ here]
          split
          · rename_i same
            rw [← same,handed,Table.amount_some ‹_›]
          · rfl
      rw [one]
      by_cases same : key = id
      · subst same
        rw [if_pos rfl,if_neg fresh,if_pos List.mem_cons_self,Int.add_zero]
      · have other : id ≠ key := fun equal => same equal.symm
        simp only [if_neg same,List.mem_cons,other,false_or,Int.add_zero]
  rw [addSoldiersInLock,loop _ _ (order.nodup_visit added.keys_nodup)]
  split
  · rfl
  · rename_i absent
    rw [order.mem_visit] at absent
    rw [handed,Table.amount_none (AList.lookup_eq_none.mpr (fun inside => absent (AList.mem_keys.mp inside)))]

end amounts

structure Sound (s : State) : Prop where
  wounded : ∀ id, 0 ≤ wounded s.seriousInjured id
  current : ∀ treatment ∈ s.current, treatment < s.made
  taken : ∀ treatment ∈ s.taken, treatment < s.made

def Relies (s : State) : Task → Prop
  | .sub _ treatment => ∀ own ∈ treatment, own ∈ s.taken
  | .clear added treatment => (∀ id, 0 ≤ handed added id) ∧ ∀ own ∈ treatment, own ∈ s.taken
  | .add added _ => ∀ id, 0 ≤ handed added id
  | .serious soldiers => ∀ soldier ∈ soldiers, 0 ≤ soldier.num
  | _ => True

-- What a handler holds of one kind, and of one treatment.
def carried (id : Nat) : Task → Int
  | .clear added _ | .add added _ => handed added id
  | _ => 0

def carries (treatment : Nat) : Task → Int
  | .sub _ own | .clear _ own | .add _ own => if own = some treatment then 1 else 0
  | _ => 0

def inQueue (s : State) (treatment : Nat) : Int := if s.current = some treatment ∧ treatment ∉ s.taken then 1 else 0

abbrev Acts (order : Order Nat) (s_Arms : Nat → Int × Int) := Interleaves enter (resume order s_Arms)

section runs
variable {order : Order Nat} {s_Arms : Nat → Int × Int} {s after : State}

theorem Relies.mono (more : ∀ treatment ∈ s.taken, treatment ∈ after.taken) {task : Task} (relied : Relies s task) : Relies after task := by
  cases task with
  | sub => exact fun own mem => more own (relied own mem)
  | clear => exact ⟨relied.1,fun own mem => more own (relied.2 own mem)⟩
  | treat | heal | award | add | serious => exact relied

@[simp] theorem enter_same (request : Request) (s : State) : (enter request s).1 = s := by
  cases request <;> unfold enter <;> dsimp only <;> repeat' split
  all_goals rfl

-- A handler begins with nothing in hand.
theorem enter_carried (request : Request) (s : State) (id : Nat) : ((enter request s).2.map (carried id)).getD 0 = 0 := by
  cases request <;> unfold enter <;> dsimp only <;> repeat' split
  all_goals rfl

theorem enter_carries (request : Request) (s : State) (treatment : Nat) : ((enter request s).2.map (carries treatment)).getD 0 = 0 := by
  cases request <;> unfold enter <;> dsimp only <;> repeat' split
  all_goals rfl

theorem enter_relies {request : Request} (allowed : Orderly s (.call request)) : ∀ next ∈ (enter request s).2, Relies s next := by
  intro next mem
  cases request with
  | addToHospital soldiers =>
    cases mem
    exact allowed
  | treatment | immediately | immediatelyQueue | awardTreatment =>
    unfold enter at mem
    dsimp only at mem
    repeat' split at mem
    all_goals cases mem
    all_goals trivial

theorem resume_taken (finishTime : Int) (task : Task) (s : State) :
    ∀ treatment ∈ s.taken, treatment ∈ (resume order s_Arms finishTime task s).1.taken := by
  intro treatment mem
  cases task with
  | award =>
    unfold resume
    dsimp only
    split
    · exact mem
    · exact List.mem_append_right _ mem
  | treat | heal | sub | clear | add | serious => exact mem

theorem Sound.take (sound : Sound s) (soldiers : List Soldier) (found : Found s.seriousInjured soldiers) :
    Sound {s with seriousInjured:=(subSeriousInLock soldiers s.seriousInjured).seriousInjured} ∧
      ∀ id, 0 ≤ handed (subSeriousInLock soldiers s.seriousInjured).addSoldierInfo id := by
  refine ⟨⟨?_,sound.current,sound.taken⟩,?_⟩
  · intro id
    have there := (found.every sound.wounded id).2
    dsimp only
    rw [(subSeriousInLock_moves found sound.wounded id).1]
    omega
  · intro id
    rw [(subSeriousInLock_moves found sound.wounded id).2]
    exact (found.every sound.wounded id).1

theorem resume_sound {task : Task} {finishTime : Int} (sound : Sound s) (relied : Relies s task) (allowed : Orderly s (.resume task finishTime)) :
    Sound (resume order s_Arms finishTime task s).1 ∧
      ∀ next ∈ (resume order s_Arms finishTime task s).2, Relies (resume order s_Arms finishTime task s).1 next := by
  cases task with
  | treat soldiers =>
    refine ⟨⟨sound.wounded,?_,?_⟩,nofun⟩
    · intro treatment mem
      cases mem
      exact Nat.lt_succ_self _
    · exact fun treatment mem => Nat.lt_succ_of_lt (sound.taken treatment mem)
  | heal soldiers =>
    obtain ⟨kept,handed⟩ := sound.take soldiers allowed
    refine ⟨kept,?_⟩
    rintro _ ⟨⟩
    exact handed
  | award =>
    unfold resume
    dsimp only
    split
    · exact ⟨sound,nofun⟩
    · refine ⟨⟨sound.wounded,sound.current,?_⟩,?_⟩
      · intro treatment mem
        rcases List.mem_append.mp mem with mine | before
        · exact sound.current treatment (Option.mem_toList.mp mine)
        · exact sound.taken treatment before
      · rintro _ ⟨⟩
        exact fun own mem => List.mem_append_left _ (Option.mem_toList.mpr mem)
  | sub soldiers treatment =>
    obtain ⟨kept,handed⟩ := sound.take soldiers allowed
    refine ⟨kept,?_⟩
    rintro _ ⟨⟩
    exact ⟨handed,relied⟩
  | clear added treatment =>
    refine ⟨⟨sound.wounded,nofun,sound.taken⟩,?_⟩
    rintro _ ⟨⟩
    exact relied.1
  | add => exact ⟨⟨sound.wounded,sound.current,sound.taken⟩,nofun⟩
  | serious soldiers =>
    refine ⟨⟨?_,sound.current,sound.taken⟩,nofun⟩
    intro id
    have before := sound.wounded id
    have more := asked_nonneg relied id
    change 0 ≤ wounded (addSeriousInLock soldiers s.seriousInjured) id
    rw [addSeriousInLock_adds]
    omega

theorem orderly_keeps : Keeps enter (resume order s_Arms) Orderly Sound Relies where
  entered s request sound allowed := by
    rw [enter_same]
    exact ⟨sound,enter_relies allowed⟩
  resumed _ _ _ sound relied allowed := resume_sound sound relied allowed
  beside_entered s request other _ _ relied := by
    rw [enter_same]
    exact relied
  beside_resumed s handler answer other _ _ _ relied := relied.mono (resume_taken answer handler s)

-- One kind: wounded, healthy, and handed out but not yet back.
theorem kind_balances (id : Nat) : Balances enter (resume order s_Arms) (Sure Orderly Sound Relies)
    (fun s => wounded s.seriousInjured id+healthy s.soldiers id-asked s.added id) (carried id) where
  entered s request _ := by rw [enter_same,enter_carried,Int.add_zero]
  resumed s task finishTime sure := by
    obtain ⟨allowed,sound,relied⟩ := sure
    replace relied := relied task finishTime rfl
    cases task with
    | treat => rfl
    | heal soldiers | sub soldiers =>
      obtain ⟨went,out⟩ := subSeriousInLock_moves allowed sound.wounded id
      simp only [resume,carried,Option.map_some,Option.getD_some,went,out]
      omega
    | award =>
      unfold resume
      dsimp only
      split <;> rfl
    | clear => rfl
    | add added =>
      have came := addSoldiersInLock_adds order s_Arms relied s.soldiers id
      simp only [resume,carried,Option.map_none,Option.getD_none,came]
      omega
    | serious soldiers =>
      simp only [resume,carried,Option.map_none,Option.getD_none,addSeriousInLock_adds,asked_append]
      omega

-- One treatment: in the queue, in an award, or credited.
theorem treatment_balances (treatment : Nat) : Balances enter (resume order s_Arms) (Sure Orderly Sound Relies)
    (fun s => inQueue s treatment+s.credited.count treatment-if treatment < s.made then 1 else 0) (carries treatment) where
  entered s request _ := by rw [enter_same,enter_carries,Int.add_zero]
  resumed s task finishTime sure := by
    obtain ⟨allowed,sound,relied⟩ := sure
    replace relied := relied task finishTime rfl
    cases task with
    | treat =>
      have free : s.current = none := allowed
      by_cases same : treatment = s.made
      · subst same
        have fresh : s.made ∉ s.taken := fun mem => absurd (sound.taken _ mem) (Nat.lt_irrefl _)
        simp [resume,carries,inQueue,free,fresh]
      · have other : s.made ≠ treatment := fun equal => same equal.symm
        have below : treatment < s.made+1 ↔ treatment < s.made := by omega
        simp [resume,carries,inQueue,free,other,below]
    | heal => rfl
    | award =>
      have apart : ∀ own ∈ s.current, own ∉ s.taken := allowed
      unfold resume
      dsimp only
      split
      · rfl
      · by_cases mine : s.current = some treatment
        · simp [carries,inQueue,mine,apart treatment mine]
          omega
        · simp [carries,inQueue,mine]
    | sub => rfl
    | clear added own =>
      have holds : s.current = own := allowed
      have gone : inQueue s treatment = 0 := by
        refine if_neg ?_
        rintro ⟨mine,untaken⟩
        exact untaken (relied.2 treatment (holds ▸ mine))
      rw [gone]
      rfl
    | add added own =>
      have counted : (((own.toList++s.credited).count treatment : Nat) : Int) = s.credited.count treatment+carries treatment (.add added own) := by
        cases own with
        | none => rfl
        | some own => by_cases same : own = treatment <;> simp [carries,same]
      change inQueue s treatment+((own.toList++s.credited).count treatment : Nat)-(if treatment < s.made then 1 else 0)+0 = _
      rw [counted]
      omega
    | serious => rfl

end runs

-- A role begins with an empty queue.
structure Fresh (service : Service State Task) : Prop where
  waiting : service.waiting = []
  wounded : ∀ id, 0 ≤ wounded service.shared.seriousInjured id
  treatmentQueue : service.shared.treatmentQueue = none
  made : service.shared.made = 0
  current : service.shared.current = none
  taken : service.shared.taken = []
  credited : service.shared.credited = []
  added : service.shared.added = []

theorem wounded_conserved {order : Order Nat} {s_Arms : Nat → Int × Int} {start last : Service State Task} {events : List (Event Request Task Int)}
    (path : Runs (Guarded (Acts order s_Arms) (Allowed Orderly)) start events last) (fresh : Fresh start) :
    (∀ id, wounded last.shared.seriousInjured id+healthy last.shared.soldiers id+owed (carried id) last.waiting =
      wounded start.shared.seriousInjured id+healthy start.shared.soldiers id+asked last.shared.added id) ∧
    (∀ treatment < last.shared.made, inQueue last.shared treatment+owed (carries treatment) last.waiting+last.shared.credited.count treatment = 1) ∧
    ∀ soldiers, Found last.shared.seriousInjured soldiers → ∀ id, handed (subSeriousInLock soldiers last.shared.seriousInjured).addSoldierInfo id =
      wounded last.shared.seriousInjured id-wounded (subSeriousInLock soldiers last.shared.seriousInjured).seriousInjured id := by
  have holds : Holding Sound Relies start := by
    refine ⟨⟨fresh.wounded,?_,?_⟩,?_⟩
    · simp [fresh.current]
    · simp [fresh.taken]
    · simp [fresh.waiting]
  have sure := orderly_keeps.sure path holds
  refine ⟨?_,?_,?_⟩
  · intro id
    have same := (kind_balances id).run sure
    simp only [fresh.waiting,fresh.added,asked_nil,owed_nil] at same
    omega
  · intro treatment low
    have same := (treatment_balances treatment).run sure
    simp [fresh.waiting,fresh.made,fresh.current,fresh.credited,inQueue,low] at same
    unfold inQueue
    omega
  · intro soldiers found id
    obtain ⟨went,out⟩ := subSeriousInLock_moves found (orderly_keeps.run path holds).1.wounded id
    omega

-- Ten wounded of kind 1.
def ward : Service State Task := ⟨⟨AList.insert 1 ⟨1,1,10⟩ ∅,∅,none,0,none,[],[],[]⟩,[]⟩

theorem ward_fresh : Fresh ward := by
  refine ⟨rfl,?_,rfl,rfl,rfl,rfl,rfl,rfl⟩
  intro id
  by_cases same : id = 1
  · subst same
    decide
  · change 0 ≤ wounded (AList.insert 1 ⟨1,1,10⟩ ∅) id
    rw [wounded,Table.amount_insert_ne _ _ _ same]
    exact le_refl _

instance (seriousInjured : Table Nat Injured) (soldiers : List Soldier) : Decidable (Found seriousInjured soldiers) :=
  inferInstanceAs (Decidable (∀ soldier ∈ soldiers, _))

instance : DecidableRel Orderly := fun s event => by
  unfold Orderly
  split <;> infer_instance

-- Four are treated and awarded, and three more come in.
theorem ward_conserved : ∃ events last, Runs (Guarded (Acts .stored (fun _ => (1,1))) (Allowed Orderly)) ward events last ∧
    (last.waiting = [] ∧ healthy last.shared.soldiers 1 = 4 ∧ last.shared.credited = [0]) ∧
    (∀ id, wounded last.shared.seriousInjured id+healthy last.shared.soldiers id+owed (carried id) last.waiting =
      wounded ward.shared.seriousInjured id+healthy ward.shared.soldiers id+asked last.shared.added id) ∧
    (∀ treatment < last.shared.made, inQueue last.shared treatment+owed (carries treatment) last.waiting+last.shared.credited.count treatment = 1) ∧
    ∀ soldiers, Found last.shared.seriousInjured soldiers → ∀ id, handed (subSeriousInLock soldiers last.shared.seriousInjured).addSoldierInfo id =
      wounded last.shared.seriousInjured id-wounded (subSeriousInLock soldiers last.shared.seriousInjured).seriousInjured id := by
  have played : ∃ events last, Runs (Guarded (Acts .stored (fun _ => (1,1))) (Allowed Orderly)) ward events last ∧
      last.waiting = [] ∧ healthy last.shared.soldiers 1 = 4 ∧ last.shared.credited = [0] := by
    apply play_reaches (fun s event => decide (Orderly s event)) (fun _ _ passed => of_decide_eq_true passed)
      [.call (.treatment [⟨1,1,1,4⟩] 100 false true),.resume 0 50,.call (.addToHospital [⟨1,1,1,3⟩]),.call (.awardTreatment 60),
        .resume 0 0,.resume 0 0,.resume 0 0,.resume 0 0,.resume 0 0] ward
    decide
  obtain ⟨events,last,path,ends⟩ := played
  exact ⟨events,last,path,ends,wounded_conserved path ward_fresh⟩

def underTreatment (s : State) (id : Nat) : Int := (s.treatmentQueue.map (fun queue => asked queue.treatmentSoldiers id)).getD 0

-- A treatment leaves its four among the wounded, and twelve are healed where ten are.
theorem treated_twice :
    (∃ events last, Runs (Acts .stored (fun _ => (1,1))) ward events last ∧ last.waiting = [] ∧
      wounded last.shared.seriousInjured 1+underTreatment last.shared 1+healthy last.shared.soldiers 1 = 14 ∧
      wounded ward.shared.seriousInjured 1+underTreatment ward.shared 1+healthy ward.shared.soldiers 1+asked last.shared.added 1 = 10) ∧
    ∃ events last, Runs (Acts .stored (fun _ => (1,1))) ward events last ∧ last.waiting = [] ∧
      wounded last.shared.seriousInjured 1+underTreatment last.shared 1+healthy last.shared.soldiers 1 = 12 ∧ asked last.shared.added 1 = 0 := by
  constructor
  · apply play_unguarded [.call (.treatment [⟨1,1,1,4⟩] 100 false true),.resume 0 50] ward
    decide
  · apply play_unguarded [.call (.immediately [⟨1,1,1,12⟩] true),.resume 0 0,.resume 0 0] ward
    decide

end OriginGame.Hospital
