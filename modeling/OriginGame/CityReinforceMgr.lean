import OriginGame.Handlers
import OriginGame.LuaTable

namespace OriginGame.CityReinforceMgr

-- An army: its role and its armyIndex.
abbrev Ref := Nat × Nat

structure ReinforceCity where
  armyIndex : Nat
  arrivalTime : Int

abbrev Reinforces := Table Nat ReinforceCity

-- 0 in reinforceRid is no city.
structure Army where
  reinforceRid : Option Nat

-- One city. The last two fields are for the proofs: the armies that were added and have
-- not been sent back since, and those that a forced move of their role is about to disband.
structure State where
  reinforces : Reinforces
  armies : Table Ref Army
  adding : Bool
  out : List Ref
  disbanding : List Ref

namespace State

def setArmy (s : State) (ref : Ref) (reinforceRid : Option Nat) : State :=
  match s.armies.lookup ref with
  | some army => {s with armies:=s.armies.insert ref {army with reinforceRid:=reinforceRid}}
  | none => s

def sendBack (s : State) (ref : Ref) : State := {s with out:=s.out.filter (· ≠ ref)}

def disbandArmy (s : State) (ref : Ref) : State :=
  {s with armies:=s.armies.erase ref, out:=s.out.filter (· ≠ ref), disbanding:=s.disbanding.filter (· ≠ ref)}

end State

-- Who calls repatriationFromCity: a request, the exit from the guild or the forced move
-- of the city, these with the roles still to come.
inductive Caller where
  | request
  | exit (rest : List Nat)
  | move (rest : List Nat)

structure Repatriation where
  repatriationRid : Nat
  force : Bool
  set : Bool
  caller : Caller

-- addCityReinforce comes after isReinforceCityOrFull has let the army pass.
inductive Request where
  | addCityReinforce (ref : Ref)
  | cityReinforceArrivalCallback (ref : Ref)
  | roleExitGuildDisbanReinforce
  | backReinforceNoArrival
  | disbanArmyOnForceMoveCity (reinforceRid : Nat)
  | returnArmyOnForceMoveCity
  | repatriationFromCity (repatriationRid : Nat) (force set : Bool)
  | forceMoveCity (ref : Ref)
  | createArmy (ref : Ref)
  | disbandArmy (ref : Ref)

-- What a handler waits to do next; a table in it is what the handler has read.
inductive Task where
  | isReinforceCityOrFull (ref : Ref)
  | addCityReinforce (ref : Ref)
  | armyEnterMap (ref : Ref)
  | addRead (ref : Ref) (arrivalTime : Int)
  | addWrite (ref : Ref) (arrivalTime : Int) (reinforces : Reinforces)
  | addArmy (ref : Ref)
  | arrival (ref : Ref)
  | arrivalGuild (ref : Ref)
  | cancleReinforceCity (ref : Ref)
  | cancleMarch (ref : Ref) (reinforces : Reinforces)
  | cancleWrite (reinforceRid : Nat) (reinforces : Reinforces)
  | cancleArmy (ref : Ref)
  | exitRead
  | exitWrite
  | returnRead
  | repatriationFromCity (call : Repatriation)
  | repatriationArmy (call : Repatriation) (reinforces : Reinforces)
  | repatriationMarch (call : Repatriation) (reinforces : Reinforces)
  | repatriationWrite (call : Repatriation) (reinforces : Reinforces)
  | backRead
  | backWrite (reinforces : Reinforces)
  | disbanRead (reinforceRid : Nat)
  | disbanWrite (reinforceRid : Nat) (reinforces : Reinforces)
  | disbandArmy (ref : Ref)

-- `ok`: the check passes, the march begins, the guild is the same, nothing raises.
-- `time` is os.time() when the handler is at a role.
structure Answer where
  ok : Bool
  arrivalTime : Int
  time : Nat → Int

-- The next role of a loop over the table, or what comes after the loop.
def proceed : Caller → Option Task
  | .request | .move [] => none
  | .exit [] => some .exitWrite
  | .exit (reinforceRid::rest) => some (.repatriationFromCity ⟨reinforceRid,true,false,.exit rest⟩)
  | .move (reinforceRid::rest) => some (.repatriationFromCity ⟨reinforceRid,true,true,.move rest⟩)

section city
variable (rid : Nat) (order : Order Nat)

def enter (request : Request) (s : State) : State × Option Task :=
  match request with
  | .addCityReinforce ref => (s,some (.isReinforceCityOrFull ref))
  | .cityReinforceArrivalCallback ref => (s,some (.arrival ref))
  | .roleExitGuildDisbanReinforce => (s,some .exitRead)
  | .backReinforceNoArrival => (s,some .backRead)
  | .disbanArmyOnForceMoveCity reinforceRid => (s,some (.disbanRead reinforceRid))
  | .returnArmyOnForceMoveCity => (s,some .returnRead)
  | .repatriationFromCity repatriationRid force set => (s,some (.repatriationFromCity ⟨repatriationRid,force,set,.request⟩))
  | .forceMoveCity ref => ({s with disbanding:=ref::s.disbanding},some (.disbandArmy ref))
  | .createArmy ref => (if ref ∈ s.armies then s else {s with armies:=s.armies.insert ref ⟨none⟩},none)
  | .disbandArmy ref => (s.disbandArmy ref,none)

-- reinforceLock lets one addCityReinforce in. The lock of repatriationFromCity and
-- cancleReinforceCity ends by itself after ten seconds, so it keeps nobody waiting here.
def resume (answer : Answer) (task : Task) (s : State) : State × Option Task :=
  match task with
  | .isReinforceCityOrFull ref =>
    if s.adding then (s,some task)
    else if answer.ok && !decide (ref.1 ∈ s.reinforces) then (s,some (.addCityReinforce ref))
    else (s,none)
  | .addCityReinforce ref =>
    if s.adding then (s,some task)
    else if ref ∈ s.armies then ({s with adding:=true},some (.armyEnterMap ref))
    else (s,none)
  -- the second check of the capacity and the march
  | .armyEnterMap ref =>
    if answer.ok then (s,some (.addRead ref answer.arrivalTime))
    else ({s with adding:=false},none)
  | .addRead ref arrivalTime => (s,some (.addWrite ref arrivalTime s.reinforces))
  | .addWrite ref arrivalTime reinforces =>
    ({s with reinforces:=reinforces.insert ref.1 ⟨ref.2,arrivalTime⟩, out:=ref::s.out},some (.addArmy ref))
  | .addArmy ref => ({s.setArmy ref (some rid) with adding:=false},none)
  | .arrival ref => (s,if ref.1 ∈ s.reinforces then some (.arrivalGuild ref) else none)
  -- in the guild it stays: a record, a new status, perhaps a battle
  | .arrivalGuild ref => (s,if answer.ok then none else some (.cancleReinforceCity ref))
  | .cancleReinforceCity ref => (s,if ref.1 ∈ s.reinforces then some (.cancleMarch ref s.reinforces) else none)
  | .cancleMarch ref reinforces => (if answer.ok then s.sendBack ref else s,some (.cancleWrite ref.1 reinforces))
  | .cancleWrite reinforceRid reinforces =>
    ({s with reinforces:=reinforces.erase reinforceRid},(reinforces.lookup reinforceRid).map (fun info => .cancleArmy (reinforceRid,info.armyIndex)))
  | .cancleArmy ref => (s.setArmy ref none,none)
  | .exitRead => (s,proceed (.exit (order.visit s.reinforces.keys)))
  | .exitWrite => ({s with reinforces:=∅},none)
  | .returnRead => (s,proceed (.move (order.visit s.reinforces.keys)))
  | .repatriationFromCity call =>
    match s.reinforces.lookup call.repatriationRid with
    | none => (s,proceed call.caller)
    | some info =>
      if !call.force && decide (answer.time call.repatriationRid < info.arrivalTime) then (s,proceed call.caller)
      else (s,some (.repatriationArmy call s.reinforces))
  | .repatriationArmy call reinforces =>
    match reinforces.lookup call.repatriationRid with
    | none => (s,proceed call.caller)
    | some info =>
      if (call.repatriationRid,info.armyIndex) ∈ s.armies then (s,some (.repatriationMarch call reinforces))
      else ({s with reinforces:=reinforces.erase call.repatriationRid},proceed call.caller)
  | .repatriationMarch call reinforces =>
    match reinforces.lookup call.repatriationRid with
    | none => (s,proceed call.caller)
    | some info =>
      if answer.ok then (s.sendBack (call.repatriationRid,info.armyIndex),some (.repatriationWrite call reinforces))
      else (s,proceed call.caller)
  | .repatriationWrite call reinforces =>
    if !call.force || call.set then ({s with reinforces:=reinforces.erase call.repatriationRid},proceed call.caller)
    else (s,proceed call.caller)
  | .backRead => (s,some (.backWrite s.reinforces))
  | .backWrite reinforces =>
    if answer.ok then
      ({s with reinforces:=Table.keepKeyed (fun reinforceRid info => decide (info.arrivalTime ≤ answer.time reinforceRid)) reinforces},none)
    else (s,none)
  | .disbanRead reinforceRid => (s,some (.disbanWrite reinforceRid s.reinforces))
  | .disbanWrite reinforceRid reinforces => ({s with reinforces:=reinforces.erase reinforceRid},none)
  | .disbandArmy ref => (s.disbandArmy ref,none)

end city
def Listed (reinforces : Reinforces) (ref : Ref) : Prop := ∃ info ∈ reinforces.lookup ref.1, info.armyIndex = ref.2

def Names (rid : Nat) (s : State) (ref : Ref) : Prop := ∃ army ∈ s.armies.lookup ref, army.reinforceRid = some rid

-- Its entry may go: the army has been sent back and no longer names the city, or it is
-- about to be disbanded.
def Away (rid : Nat) (s : State) (ref : Ref) : Prop := ref ∉ s.out ∧ ¬Names rid s ref ∨ ref ∈ s.disbanding

-- Every army with its entry in the table that passes the check.
def Everyone (reinforces : Reinforces) (check : Nat → ReinforceCity → Prop) : Prop :=
  ∀ reinforceRid ∈ reinforces.keys, ∀ info ∈ reinforces.lookup reinforceRid, check reinforceRid info

-- Nothing has come into the table since it was read.
def Current (rid : Nat) (s : State) (reinforces : Reinforces) : Prop :=
  Everyone s.reinforces (fun reinforceRid info => Away rid s (reinforceRid,info.armyIndex) ∨ Listed reinforces (reinforceRid,info.armyIndex))

-- The entry of a role may go.
def Leaves (rid : Nat) (s : State) (reinforces : Reinforces) (reinforceRid : Nat) : Prop :=
  ∀ info ∈ reinforces.lookup reinforceRid, Away rid s (reinforceRid,info.armyIndex)

def Undisturbed (rid : Nat) (s : State) : Event Request Task Answer → Prop
  | .resume (.addWrite ref _ reinforces) _ => Current rid s reinforces ∧
    ∀ info ∈ reinforces.lookup ref.1, info.armyIndex = ref.2 ∨ Away rid s (ref.1,info.armyIndex)
  | .resume (.addArmy ref) _ => ref ∈ s.armies → Listed s.reinforces ref ∨ ref ∈ s.disbanding
  | .resume (.cancleWrite reinforceRid reinforces) _ => Current rid s reinforces ∧
    ∀ info ∈ reinforces.lookup reinforceRid, (reinforceRid,info.armyIndex) ∉ s.out
  | .resume .exitWrite _ => Everyone s.reinforces (fun reinforceRid info => Away rid s (reinforceRid,info.armyIndex))
  | .resume (.repatriationArmy call reinforces) _ =>
    (∀ info ∈ reinforces.lookup call.repatriationRid, (call.repatriationRid,info.armyIndex) ∉ s.armies) →
      Current rid s reinforces ∧ Leaves rid s reinforces call.repatriationRid
  | .resume (.repatriationWrite call reinforces) _ =>
    (!call.force || call.set) = true → Current rid s reinforces ∧ Leaves rid s reinforces call.repatriationRid
  | .resume (.backWrite reinforces) answer => answer.ok = true → Current rid s reinforces ∧
    Everyone reinforces (fun reinforceRid info => answer.time reinforceRid < info.arrivalTime → Away rid s (reinforceRid,info.armyIndex))
  | .resume (.disbanWrite reinforceRid reinforces) _ => Current rid s reinforces ∧ Leaves rid s reinforces reinforceRid
  | _ => True

-- An army that is out is listed.
def Tracked (s : State) : Prop := ∀ ref ∈ s.out, Listed s.reinforces ref ∨ ref ∈ s.disbanding

-- An army that names the city and is not listed.
def Stray (rid : Nat) (s : State) (ref : Ref) : Prop := Names rid s ref ∧ ¬Listed s.reinforces ref ∧ ref ∉ s.disbanding

-- cancleReinforceCity takes the entry first.
def Cancels : Task → Ref → Prop
  | .cancleArmy ref,other => ref = other
  | _,_ => False

def Disbands : Task → Ref → Prop
  | .disbandArmy ref,other => ref = other
  | _,_ => False

abbrev Acts (rid : Nat) (order : Order Nat) := Interleaves enter (resume rid order)

-- A write-back of the table that drops only what is away.
structure Rewrites (rid : Nat) (s after : State) : Prop where
  out : after.out = s.out
  armies : after.armies = s.armies
  disbanding : after.disbanding = s.disbanding
  keeps : ∀ ref, Listed s.reinforces ref → Away rid s ref ∨ Listed after.reinforces ref

-- What a handler that goes on does to the table and the armies.
inductive Outcome (rid : Nat) (s : State) (next : Option Task) : Task → State → Prop where
  | rewrites : (∀ ref, ¬Cancels task ref ∧ ¬Disbands task ref) → Rewrites rid s after → Outcome rid s next task after
  | adds : Rewrites rid s {s with reinforces:=reinforces} → Listed reinforces ref →
      Outcome rid s next (.addWrite ref arrivalTime held) {s with reinforces:=reinforces, out:=ref::s.out}
  | names : (ref ∈ s.armies → Listed s.reinforces ref ∨ ref ∈ s.disbanding) →
      Outcome rid s next (.addArmy ref) {s.setArmy ref (some rid) with adding:=false}
  | sends : (∀ ref, ¬Cancels task ref ∧ ¬Disbands task ref) → Outcome rid s next task (s.sendBack ref)
  | cancels : (∀ ref, Listed s.reinforces ref → Away rid s ref ∨ Listed reinforces ref ∨ ref ∉ s.out ∧ ∃ own ∈ next, Cancels own ref) →
      Outcome rid s next (.cancleWrite reinforceRid held) {s with reinforces:=reinforces}
  | clears : Outcome rid s next (.cancleArmy ref) (s.setArmy ref none)
  | disbands : Outcome rid s next (.disbandArmy ref) (s.disbandArmy ref)

section listed
variable {rid : Nat} {order : Order Nat} {s after : State} {ref other : Ref} {reinforces : Reinforces} {task : Task} {answer : Answer}

theorem Everyone.entry {check : Nat → ReinforceCity → Prop} (every : Everyone reinforces check) {reinforceRid : Nat} {info : ReinforceCity}
    (found : info ∈ reinforces.lookup reinforceRid) : check reinforceRid info :=
  every reinforceRid (AList.mem_keys.mp (Table.mem_of_lookup found)) info found

theorem Current.listed (current : Current rid s reinforces) (there : Listed s.reinforces ref) : Away rid s ref ∨ Listed reinforces ref := by
  obtain ⟨info,found,same⟩ := there
  have kept := current.entry found
  rwa [same] at kept

theorem listed_erase {reinforceRid : Nat} (there : Listed reinforces ref) (differs : ref.1 ≠ reinforceRid) :
    Listed (reinforces.erase reinforceRid) ref := by
  obtain ⟨info,found,same⟩ := there
  exact ⟨info,(AList.lookup_erase_ne differs).trans found,same⟩

-- Without the entry of one role.
theorem Current.erase {reinforceRid : Nat} (current : Current rid s reinforces) (leaves : Leaves rid s reinforces reinforceRid)
    (there : Listed s.reinforces ref) : Away rid s ref ∨ Listed (reinforces.erase reinforceRid) ref := by
  rcases current.listed there with away | kept
  · exact .inl away
  · by_cases own : ref.1 = reinforceRid
    · obtain ⟨info,found,same⟩ := kept
      rw [own] at found
      have away := leaves info found
      rw [same,← own] at away
      exact .inl away
    · exact .inr (listed_erase kept own)

theorem Away.tracked (away : Away rid s ref) (out : ref ∈ s.out) : ref ∈ s.disbanding := away.elim (fun back => absurd out back.1) (fun soon => soon)

theorem Away.named (away : Away rid s ref) (names : Names rid s ref) : ref ∈ s.disbanding := away.elim (fun back => absurd names back.2) (fun soon => soon)

theorem Rewrites.tracked (rewrites : Rewrites rid s after) (tracked : Tracked s) : Tracked after := by
  intro ref out
  rw [rewrites.out] at out
  rw [rewrites.disbanding]
  rcases tracked ref out with there | soon
  · rcases rewrites.keeps ref there with away | kept
    · exact .inr (away.tracked out)
    · exact .inl kept
  · exact .inr soon

theorem Rewrites.stray (rewrites : Rewrites rid s after) (stray : Stray rid after ref) : Stray rid s ref := by
  obtain ⟨names,absent,staying⟩ := stray
  have named : Names rid s ref := by
    unfold Names at names ⊢
    rwa [rewrites.armies] at names
  rw [rewrites.disbanding] at staying
  refine ⟨named,?_,staying⟩
  intro there
  rcases rewrites.keeps ref there with away | kept
  · exact staying (away.named named)
  · exact absent kept

theorem setArmy_rest (s : State) (ref : Ref) (reinforceRid : Option Nat) : (s.setArmy ref reinforceRid).reinforces = s.reinforces ∧
    (s.setArmy ref reinforceRid).out = s.out ∧ (s.setArmy ref reinforceRid).disbanding = s.disbanding := by
  unfold State.setArmy
  split <;> exact ⟨rfl,rfl,rfl⟩

theorem setArmy_names {reinforceRid : Option Nat} (names : Names rid (s.setArmy ref reinforceRid) other) :
    other = ref ∧ ref ∈ s.armies ∧ reinforceRid = some rid ∨ other ≠ ref ∧ Names rid s other := by
  unfold State.setArmy at names
  split at names
  · rename_i army found
    obtain ⟨held,there,named⟩ := names
    rcases Table.found_insert there with ⟨rfl,rfl⟩ | ⟨same,older⟩
    · exact .inl ⟨rfl,Table.mem_of_lookup found,named⟩
    · exact .inr ⟨same,held,older,named⟩
  · rename_i absent
    refine .inr ⟨?_,names⟩
    rintro rfl
    obtain ⟨held,there,_⟩ := names
    rw [absent] at there
    cases there

theorem sendBack_tracked (tracked : Tracked s) (ref : Ref) : Tracked (s.sendBack ref) :=
  fun other out => tracked other (List.mem_filter.mp out).1

theorem disbandArmy_tracked (tracked : Tracked s) (ref : Ref) : Tracked (s.disbandArmy ref) := by
  intro other out
  obtain ⟨before,differs⟩ := List.mem_filter.mp out
  exact (tracked other before).imp_right (fun soon => List.mem_filter.mpr ⟨soon,differs⟩)

theorem disbandArmy_names (names : Names rid (s.disbandArmy ref) other) : other ≠ ref ∧ Names rid s other := by
  obtain ⟨army,there,named⟩ := names
  change army ∈ (s.armies.erase ref).lookup other at there
  obtain ⟨same,there⟩ := Table.found_erase there
  exact ⟨same,army,there,named⟩

theorem disbandArmy_stray (stray : Stray rid (s.disbandArmy ref) other) : Stray rid s other := by
  obtain ⟨names,absent,staying⟩ := stray
  obtain ⟨differs,named⟩ := disbandArmy_names names
  exact ⟨named,absent,fun soon => staying (List.mem_filter.mpr ⟨soon,decide_eq_true differs⟩)⟩

theorem Rewrites.same (reinforces : after.reinforces = s.reinforces) (out : after.out = s.out) (armies : after.armies = s.armies)
    (disbanding : after.disbanding = s.disbanding) : Rewrites rid s after := by
  refine ⟨out,armies,disbanding,?_⟩
  rw [reinforces]
  exact fun _ there => .inr there

theorem Rewrites.refl (s : State) : Rewrites rid s s := .same rfl rfl rfl rfl

theorem addWrite_rewrites {arrivalTime : Int} (current : Current rid s reinforces)
    (own : ∀ info ∈ reinforces.lookup ref.1, info.armyIndex = ref.2 ∨ Away rid s (ref.1,info.armyIndex)) :
    Rewrites rid s {s with reinforces:=reinforces.insert ref.1 ⟨ref.2,arrivalTime⟩} := by
  refine ⟨rfl,rfl,rfl,?_⟩
  intro other there
  rcases current.listed there with away | ⟨info,found,same⟩
  · exact .inl away
  · by_cases role : other.1 = ref.1
    · rw [role] at found
      rcases own info found with mine | away
      · refine .inr ⟨⟨ref.2,arrivalTime⟩,?_,mine.symm.trans same⟩
        rw [role]
        exact AList.lookup_insert _
      · rw [same,← role] at away
        exact .inl away
    · exact .inr ⟨info,(AList.lookup_insert_ne role).trans found,same⟩

theorem erase_rewrites {reinforceRid : Nat} (current : Current rid s reinforces) (leaves : Leaves rid s reinforces reinforceRid) :
    Rewrites rid s {s with reinforces:=reinforces.erase reinforceRid} := ⟨rfl,rfl,rfl,fun _ there => current.erase leaves there⟩

theorem clear_rewrites (every : Everyone s.reinforces (fun reinforceRid info => Away rid s (reinforceRid,info.armyIndex))) :
    Rewrites rid s {s with reinforces:=∅} := by
  refine ⟨rfl,rfl,rfl,?_⟩
  rintro ref ⟨info,found,same⟩
  have away := every.entry found
  rw [same] at away
  exact .inl away

theorem back_rewrites {time : Nat → Int} (current : Current rid s reinforces)
    (late : Everyone reinforces (fun reinforceRid info => time reinforceRid < info.arrivalTime → Away rid s (reinforceRid,info.armyIndex))) :
    Rewrites rid s {s with reinforces:=Table.keepKeyed (fun reinforceRid info => decide (info.arrivalTime ≤ time reinforceRid)) reinforces} := by
  refine ⟨rfl,rfl,rfl,?_⟩
  intro ref there
  rcases current.listed there with away | ⟨info,found,same⟩
  · exact .inl away
  · by_cases arrived : info.arrivalTime ≤ time ref.1
    · refine .inr ⟨info,?_,same⟩
      rw [Table.lookup_keepKeyed,Option.mem_def.mp found,Option.filter_some,if_pos (decide_eq_true arrived)]
      rfl
    · have away := late.entry found (Int.lt_of_not_ge arrived)
      rw [same] at away
      exact .inl away

theorem cancel_keeps {reinforceRid : Nat} (current : Current rid s reinforces)
    (sent : ∀ info ∈ reinforces.lookup reinforceRid, (reinforceRid,info.armyIndex) ∉ s.out) (there : Listed s.reinforces ref) :
    Away rid s ref ∨ Listed (reinforces.erase reinforceRid) ref ∨ ref ∉ s.out ∧
      ∃ own ∈ (reinforces.lookup reinforceRid).map (fun info => Task.cancleArmy (reinforceRid,info.armyIndex)), Cancels own ref := by
  rcases current.listed there with away | kept
  · exact .inl away
  · by_cases role : ref.1 = reinforceRid
    · obtain ⟨info,found,same⟩ := kept
      rw [role] at found
      have mine : (reinforceRid,info.armyIndex) = ref := Prod.ext role.symm same
      exact .inr (.inr ⟨mine ▸ sent info found,_,Option.mem_map.mpr ⟨info,found,rfl⟩,mine⟩)
    · exact .inr (.inl (listed_erase kept role))

theorem resume_outcome (allowed : Undisturbed rid s (.resume task answer)) :
    Outcome rid s (resume rid order answer task s).2 task (resume rid order answer task s).1 := by
  have plain : ∀ {after : State}, Rewrites rid s after → (∀ ref, ¬Cancels task ref ∧ ¬Disbands task ref) →
    Outcome rid s (resume rid order answer task s).2 task after := fun rewrites apart => .rewrites apart rewrites
  cases task with
  | addRead | arrival | arrivalGuild | cancleReinforceCity | exitRead | returnRead | backRead | disbanRead =>
    exact plain (.refl s) (fun _ => ⟨id,id⟩)
  | isReinforceCityOrFull =>
    refine plain ?_ (fun _ => ⟨id,id⟩)
    unfold resume
    dsimp only
    repeat' split
    all_goals exact .refl s
  | addCityReinforce | armyEnterMap =>
    refine plain ?_ (fun _ => ⟨id,id⟩)
    unfold resume
    dsimp only
    repeat' split
    all_goals exact .same rfl rfl rfl rfl
  | addWrite ref arrivalTime reinforces =>
    obtain ⟨current,own⟩ := allowed
    exact .adds (addWrite_rewrites current own) ⟨_,AList.lookup_insert _,rfl⟩
  | addArmy ref => exact .names allowed
  | cancleMarch ref =>
    unfold resume
    dsimp only
    split
    · exact .sends (fun _ => ⟨id,id⟩)
    · exact .rewrites (fun _ => ⟨id,id⟩) (.refl s)
  | cancleWrite reinforceRid reinforces =>
    obtain ⟨current,sent⟩ := allowed
    exact .cancels (fun _ => cancel_keeps current sent)
  | cancleArmy ref => exact .clears
  | exitWrite => exact plain (clear_rewrites allowed) (fun _ => ⟨id,id⟩)
  | repatriationFromCity call =>
    refine plain ?_ (fun _ => ⟨id,id⟩)
    unfold resume
    dsimp only
    repeat' split
    all_goals exact .refl s
  | repatriationArmy call reinforces =>
    refine plain ?_ (fun _ => ⟨id,id⟩)
    unfold resume
    dsimp only
    split
    · exact .refl s
    · rename_i info found
      split
      · exact .refl s
      · rename_i missing
        have only : ∀ other ∈ reinforces.lookup call.repatriationRid, (call.repatriationRid,other.armyIndex) ∉ s.armies := by
          intro other mem
          rw [found] at mem
          cases mem
          exact missing
        obtain ⟨current,leaves⟩ := allowed only
        exact erase_rewrites current leaves
  | repatriationMarch call reinforces =>
    unfold resume
    dsimp only
    repeat' split
    · exact .rewrites (fun _ => ⟨id,id⟩) (.refl s)
    · exact .sends (fun _ => ⟨id,id⟩)
    · exact .rewrites (fun _ => ⟨id,id⟩) (.refl s)
  | repatriationWrite call reinforces =>
    refine plain ?_ (fun _ => ⟨id,id⟩)
    unfold resume
    dsimp only
    split
    · rename_i writes
      obtain ⟨current,leaves⟩ := allowed writes
      exact erase_rewrites current leaves
    · exact .refl s
  | backWrite reinforces =>
    refine plain ?_ (fun _ => ⟨id,id⟩)
    unfold resume
    dsimp only
    split
    · rename_i arrived
      obtain ⟨current,late⟩ := allowed arrived
      exact back_rewrites current late
    · exact .refl s
  | disbanWrite reinforceRid reinforces =>
    obtain ⟨current,leaves⟩ := allowed
    exact plain (erase_rewrites current leaves) (fun _ => ⟨id,id⟩)
  | disbandArmy ref => exact .disbands

theorem Outcome.tracked {next : Option Task} (outcome : Outcome rid s next task after) (tracked : Tracked s) : Tracked after := by
  cases outcome with
  | rewrites _ rewrites => exact rewrites.tracked tracked
  | adds rewrites there =>
    intro ref out
    rcases List.mem_cons.mp out with rfl | before
    · exact .inl there
    · exact rewrites.tracked tracked ref before
  | @names own _ =>
    obtain ⟨table,out,disbanding⟩ := setArmy_rest s own (some rid)
    intro ref held
    rw [show State.out _ = (s.setArmy own (some rid)).out from rfl,out] at held
    rw [show State.reinforces _ = (s.setArmy own (some rid)).reinforces from rfl,table,
      show State.disbanding _ = (s.setArmy own (some rid)).disbanding from rfl,disbanding]
    exact tracked ref held
  | sends => exact sendBack_tracked tracked _
  | cancels keeps =>
    intro ref out
    rcases tracked ref out with there | soon
    · rcases keeps ref there with away | kept | ⟨gone,_⟩
      · exact .inr (away.tracked out)
      · exact .inl kept
      · exact absurd out gone
    · exact .inr soon
  | @clears own =>
    obtain ⟨table,out,disbanding⟩ := setArmy_rest s own none
    intro ref held
    rw [out] at held
    rw [table,disbanding]
    exact tracked ref held
  | disbands => exact disbandArmy_tracked tracked _

theorem Outcome.stray {next : Option Task} (outcome : Outcome rid s next task after) (stray : Stray rid after ref) :
    Stray rid s ref ∧ ¬Cancels task ref ∨ ∃ own ∈ next, Cancels own ref := by
  cases outcome with
  | rewrites apart rewrites => exact .inl ⟨rewrites.stray stray,(apart ref).1⟩
  | adds rewrites _ =>
    obtain ⟨names,absent,staying⟩ := stray
    exact .inl ⟨rewrites.stray ⟨names,absent,staying⟩,id⟩
  | @names own listed =>
    obtain ⟨table,_,disbanding⟩ := setArmy_rest s own (some rid)
    obtain ⟨names,absent,staying⟩ := stray
    rw [show State.reinforces _ = (s.setArmy own (some rid)).reinforces from rfl,table] at absent
    rw [show State.disbanding _ = (s.setArmy own (some rid)).disbanding from rfl,disbanding] at staying
    rcases setArmy_names names with ⟨rfl,there,_⟩ | ⟨_,named⟩
    · exact absurd (listed there) (not_or.mpr ⟨absent,staying⟩)
    · exact .inl ⟨⟨named,absent,staying⟩,id⟩
  | sends apart =>
    obtain ⟨names,absent,staying⟩ := stray
    exact .inl ⟨⟨names,absent,staying⟩,(apart ref).1⟩
  | cancels keeps =>
    obtain ⟨names,absent,staying⟩ := stray
    by_cases there : Listed s.reinforces ref
    · rcases keeps ref there with away | kept | ⟨_,own⟩
      · exact absurd (away.named names) staying
      · exact absurd kept absent
      · exact .inr own
    · exact .inl ⟨⟨names,there,staying⟩,id⟩
  | @clears own =>
    obtain ⟨table,_,disbanding⟩ := setArmy_rest s own none
    obtain ⟨names,absent,staying⟩ := stray
    rw [table] at absent
    rw [disbanding] at staying
    rcases setArmy_names names with ⟨_,_,none_named⟩ | ⟨differs,named⟩
    · cases none_named
    · exact .inl ⟨⟨named,absent,staying⟩,fun mine => differs mine.symm⟩
  | disbands => exact .inl ⟨disbandArmy_stray stray,id⟩

theorem Outcome.disbanding {next : Option Task} (outcome : Outcome rid s next task after) (soon : ref ∈ after.disbanding) :
    ref ∈ s.disbanding ∧ ¬Disbands task ref := by
  cases outcome with
  | rewrites apart rewrites => exact ⟨rewrites.disbanding ▸ soon,(apart ref).2⟩
  | adds => exact ⟨soon,id⟩
  | @names own _ => exact ⟨(setArmy_rest s own (some rid)).2.2 ▸ soon,id⟩
  | sends apart => exact ⟨soon,(apart ref).2⟩
  | cancels => exact ⟨soon,id⟩
  | @clears own => exact ⟨(setArmy_rest s own none).2.2 ▸ soon,id⟩
  | disbands =>
    obtain ⟨before,differs⟩ := List.mem_filter.mp soon
    exact ⟨before,fun mine => of_decide_eq_true differs mine.symm⟩

theorem enter_tracked (request : Request) (tracked : Tracked s) : Tracked (enter request s).1 := by
  cases request with
  | addCityReinforce | cityReinforceArrivalCallback | roleExitGuildDisbanReinforce | backReinforceNoArrival | disbanArmyOnForceMoveCity
    | returnArmyOnForceMoveCity | repatriationFromCity => exact tracked
  | forceMoveCity ref => exact fun other out => (tracked other out).imp_right (List.mem_cons_of_mem _)
  | createArmy ref =>
    unfold enter
    dsimp only
    split
    · exact tracked
    · exact tracked
  | disbandArmy ref => exact disbandArmy_tracked tracked ref

theorem enter_stray (request : Request) (stray : Stray rid (enter request s).1 ref) : Stray rid s ref := by
  cases request with
  | addCityReinforce | cityReinforceArrivalCallback | roleExitGuildDisbanReinforce | backReinforceNoArrival | disbanArmyOnForceMoveCity
    | returnArmyOnForceMoveCity | repatriationFromCity => exact stray
  | forceMoveCity own =>
    obtain ⟨names,absent,staying⟩ := stray
    exact ⟨names,absent,fun soon => staying (List.mem_cons_of_mem _ soon)⟩
  | createArmy own =>
    unfold enter at stray
    dsimp only at stray
    split at stray
    · exact stray
    · obtain ⟨⟨army,there,named⟩,absent,staying⟩ := stray
      refine ⟨⟨army,?_,named⟩,absent,staying⟩
      rcases Table.found_insert there with ⟨rfl,rfl⟩ | ⟨_,there⟩
      · cases named
      · exact there
  | disbandArmy own => exact disbandArmy_stray stray

theorem enter_disbanding (request : Request) (soon : ref ∈ (enter request s).1.disbanding) :
    ref ∈ s.disbanding ∨ ∃ next ∈ (enter request s).2, Disbands next ref := by
  cases request with
  | addCityReinforce | cityReinforceArrivalCallback | roleExitGuildDisbanReinforce | backReinforceNoArrival | disbanArmyOnForceMoveCity
    | returnArmyOnForceMoveCity | repatriationFromCity => exact .inl soon
  | forceMoveCity own =>
    rcases List.mem_cons.mp soon with rfl | before
    · exact .inr ⟨_,rfl,rfl⟩
    · exact .inl before
  | createArmy own =>
    unfold enter at soon
    dsimp only at soon
    split at soon <;> exact .inl soon
  | disbandArmy own => exact .inl (List.mem_filter.mp soon).1

theorem tracked_keeps : Keeps enter (resume rid order) (Undisturbed rid) Tracked (fun _ _ => True) where
  entered _ request tracked _ := ⟨enter_tracked request tracked,fun _ _ => trivial⟩
  resumed _ _ _ tracked _ allowed := ⟨(resume_outcome allowed).tracked tracked,fun _ _ => trivial⟩
  beside_entered _ _ _ _ _ _ := trivial
  beside_resumed _ _ _ _ _ _ _ _ := trivial

theorem stray_owns : Owns enter (resume rid order) (Undisturbed rid) (Stray rid) Cancels where
  entered _ request _ _ stray := .inl (enter_stray request stray)
  resumed _ _ _ _ allowed stray := (resume_outcome allowed).stray stray

theorem disbanding_owns : Owns enter (resume rid order) (Undisturbed rid) (fun s ref => ref ∈ s.disbanding) Disbands where
  entered _ request _ _ soon := enter_disbanding request soon
  resumed _ _ _ _ allowed soon := .inl ((resume_outcome allowed).disbanding soon)

end listed

-- No handler at work, and the armies that name the city or are out are listed.
structure Quiet (rid : Nat) (service : Service State Task) : Prop where
  waiting : service.waiting = []
  disbanding : service.shared.disbanding = []
  names : ∀ ref, Names rid service.shared ref → Listed service.shared.reinforces ref
  out : ∀ ref ∈ service.shared.out, Listed service.shared.reinforces ref

theorem reinforces_listed {rid : Nat} {order : Order Nat} {start last : Service State Task} {events : List (Event Request Task Answer)}
    (path : Runs (Guarded (Acts rid order) (Allowed (Undisturbed rid))) start events last) (quiet : Quiet rid start)
    (done : last.waiting = []) :
    (∀ ref, Names rid last.shared ref → Listed last.shared.reinforces ref) ∧ ∀ ref ∈ last.shared.out, Listed last.shared.reinforces ref := by
  have soon : ∀ ref, ref ∉ last.shared.disbanding := by
    intro ref mem
    have at_first : ∀ ref, ref ∉ start.shared.disbanding := by
      intro ref
      rw [quiet.disbanding]
      exact List.not_mem_nil
    have owned := disbanding_owns.run path (fun ref mem => absurd mem (at_first ref)) ref mem
    rw [done] at owned
    obtain ⟨_,none_waiting,_⟩ := owned
    cases none_waiting
  have tracked := (tracked_keeps.run path ⟨fun ref out => .inl (quiet.out ref out),fun _ _ => trivial⟩).1
  refine ⟨?_,?_⟩
  · intro ref names
    by_contra absent
    have owned := stray_owns.run path (fun ref stray => absurd (quiet.names ref stray.1) stray.2.1) ref ⟨names,absent,soon ref⟩
    rw [done] at owned
    obtain ⟨_,none_waiting,_⟩ := owned
    cases none_waiting
  · intro ref out
    exact (tracked ref out).resolve_right (soon ref)

instance (reinforces : Reinforces) (ref : Ref) : Decidable (Listed reinforces ref) :=
  inferInstanceAs (Decidable (∃ info ∈ reinforces.lookup ref.1, _))

instance (rid : Nat) (s : State) (ref : Ref) : Decidable (Names rid s ref) :=
  inferInstanceAs (Decidable (∃ army ∈ s.armies.lookup ref, _))

instance (rid : Nat) (s : State) (ref : Ref) : Decidable (Away rid s ref) := inferInstanceAs (Decidable (_ ∨ _))

instance (reinforces : Reinforces) (check : Nat → ReinforceCity → Prop) [∀ reinforceRid info, Decidable (check reinforceRid info)] :
    Decidable (Everyone reinforces check) :=
  inferInstanceAs (Decidable (∀ reinforceRid ∈ reinforces.keys, ∀ info ∈ reinforces.lookup reinforceRid, check reinforceRid info))

instance (rid : Nat) (s : State) (reinforces : Reinforces) : Decidable (Current rid s reinforces) :=
  inferInstanceAs (Decidable (Everyone _ _))

instance (rid : Nat) (s : State) (reinforces : Reinforces) (reinforceRid : Nat) : Decidable (Leaves rid s reinforces reinforceRid) :=
  inferInstanceAs (Decidable (∀ info ∈ reinforces.lookup reinforceRid, _))

instance (rid : Nat) : DecidableRel (Undisturbed rid) := fun s event => by
  unfold Undisturbed
  split <;> infer_instance

-- Two armies of role 7 and one of role 8 at home.
def armies : Service State Task :=
  ⟨⟨∅,((∅ : Table Ref Army).insert (7,1) ⟨none⟩).insert (7,2) ⟨none⟩ |>.insert (8,1) ⟨none⟩,false,[],[]⟩,[]⟩

theorem armies_quiet : Quiet 5 armies := by
  refine ⟨rfl,rfl,?_,nofun⟩
  rintro ref ⟨army,found,named⟩
  have nowhere : ∀ ref ∈ armies.shared.armies.keys, ¬Names 5 armies.shared ref := by decide
  exact absurd ⟨army,found,named⟩ (nowhere ref (AList.mem_keys.mp (Table.mem_of_lookup found)))

def answer (ok : Bool) : Answer := ⟨ok,50,fun _ => 60⟩

-- Both roles send an army, role 8 leaves the guild before its army arrives.
theorem armies_listed : ∃ events last, Runs (Guarded (Acts 5 .stored) (Allowed (Undisturbed 5))) armies events last ∧
    (last.waiting = [] ∧ Names 5 last.shared (7,1) ∧ (7,1) ∈ last.shared.out ∧ ¬Listed last.shared.reinforces (8,1)) ∧
    (∀ ref, Names 5 last.shared ref → Listed last.shared.reinforces ref) ∧ ∀ ref ∈ last.shared.out, Listed last.shared.reinforces ref := by
  have played : ∃ events last, Runs (Guarded (Acts 5 .stored) (Allowed (Undisturbed 5))) armies events last ∧
      last.waiting = [] ∧ Names 5 last.shared (7,1) ∧ (7,1) ∈ last.shared.out ∧ ¬Listed last.shared.reinforces (8,1) := by
    apply play_reaches (fun s event => decide (Undisturbed 5 s event)) (fun _ _ passed => of_decide_eq_true passed)
      [.call (.addCityReinforce (7,1)),.resume 0 (answer true),.resume 0 (answer true),.resume 0 (answer true),.resume 0 (answer true),
        .resume 0 (answer true),.resume 0 (answer true),.call (.addCityReinforce (8,1)),.resume 0 (answer true),.resume 0 (answer true),
        .resume 0 (answer true),.resume 0 (answer true),.resume 0 (answer true),.resume 0 (answer true),
        .call (.cityReinforceArrivalCallback (8,1)),.resume 0 (answer true),.resume 0 (answer false),.resume 0 (answer true),
        .resume 0 (answer true),.resume 0 (answer true),.resume 0 (answer true)] armies
    decide
  obtain ⟨events,last,path,ends⟩ := played
  exact ⟨events,last,path,ends,reinforces_listed path armies_quiet ends.1⟩

-- Role 7 sends both before either is listed: the second takes the place of the first.
theorem second_replaces : ∃ events last, Runs (Acts 5 .stored) armies events last ∧
    last.waiting = [] ∧ Names 5 last.shared (7,1) ∧ (7,1) ∈ last.shared.out ∧ ¬Listed last.shared.reinforces (7,1) := by
  apply play_unguarded [.call (.addCityReinforce (7,1)),.call (.addCityReinforce (7,2)),.resume 1 (answer true),.resume 0 (answer true),
    .resume 1 (answer true),.resume 1 (answer true),.resume 1 (answer true),.resume 1 (answer true),.resume 1 (answer true),
    .resume 0 (answer true),.resume 0 (answer true),.resume 0 (answer true),.resume 0 (answer true),.resume 0 (answer true)] armies
  decide

end OriginGame.CityReinforceMgr
