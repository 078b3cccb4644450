import OriginGame.ResourceMgr

namespace OriginGame.ResourceMgr

section listed
variable {s t : State} {resourceIndex : Nat} {info : Resource}

theorem Listed.congr (listed : Listed s) (resources : t.resources = s.resources) (dict : t.resourceDict = s.resourceDict)
    (zone : t.zoneResources = s.zoneResources) (territory : t.territoryResources = s.territoryResources) : Listed t := by
  obtain ⟨first,second,third,fourth⟩ := listed
  constructor
  · rw [resources,dict]
    exact first
  · rw [resources,dict]
    exact second
  · rw [resources,zone]
    exact third
  · rw [resources,territory]
    exact fourth

-- A secondary index that names each node under one of its fields.
theorem find_entered {field : Resource → Nat} {resources : Table Nat Resource} {index : NestedTable Nat Nat Unit}
    (listed : ∀ key r, NestedTable.find index key r = some () ↔ ∃ info, resources.lookup r = some info ∧ field info = key)
    (absent : resourceIndex ∉ resources) (key r : Nat) :
    NestedTable.find (NestedTable.put index (field info) resourceIndex ()) key r = some () ↔
      ∃ other, (resources.insert resourceIndex info).lookup r = some other ∧ field other = key := by
  rw [NestedTable.find_put]
  by_cases same : r = resourceIndex
  · subst same
    rw [AList.lookup_insert]
    constructor
    · intro found
      split at found
      · rename_i both
        exact ⟨info,rfl,both.1.symm⟩
      · obtain ⟨other,there,_⟩ := (listed key r).mp found
        exact absurd (Table.mem_of_lookup there) absent
    · rintro ⟨other,⟨⟩,rfl⟩
      rw [if_pos ⟨rfl,rfl⟩]
  · rw [if_neg (fun both => same both.2),AList.lookup_insert_ne same]
    exact listed key r

theorem find_left {field : Resource → Nat} {resources : Table Nat Resource} {index : NestedTable Nat Nat Unit}
    (listed : ∀ key r, NestedTable.find index key r = some () ↔ ∃ info, resources.lookup r = some info ∧ field info = key)
    (found : resources.lookup resourceIndex = some info) (key r : Nat) :
    NestedTable.find (NestedTable.drop index (field info) resourceIndex) key r = some () ↔
      ∃ other, (resources.erase resourceIndex).lookup r = some other ∧ field other = key := by
  rw [NestedTable.find_drop]
  by_cases same : r = resourceIndex
  · subst same
    rw [AList.lookup_erase]
    constructor
    · intro still
      split at still
      · cases still
      · rename_i other
        obtain ⟨held,there,rfl⟩ := (listed key r).mp still
        obtain rfl := Option.some.inj (found.symm.trans there)
        exact absurd ⟨rfl,rfl⟩ other
    · rintro ⟨_,⟨⟩,_⟩
  · rw [if_neg (fun both => same both.2),AList.lookup_erase_ne same]
    exact listed key r

theorem enter_listed (listed : Listed s) (absent : resourceIndex ∉ s.resources) (unknown : info.resourceId ∉ s.resourceDict) :
    Listed {s with
      resources:=s.resources.insert resourceIndex info
      resourceDict:=s.resourceDict.insert info.resourceId resourceIndex
      zoneResources:=NestedTable.put s.zoneResources info.zoneIndex resourceIndex ()
      territoryResources:=NestedTable.put s.territoryResources info.territoryId resourceIndex ()} := by
  refine ⟨?_,?_,find_entered listed.zone absent,find_entered listed.territory absent⟩
  · intro r other found
    dsimp only at found ⊢
    rcases Table.found_insert found with ⟨rfl,rfl⟩ | ⟨_,found⟩
    · exact AList.lookup_insert _
    · have dict := listed.dict r other found
      rw [AList.lookup_insert_ne]
      · exact dict
      · intro clash
        rw [clash] at dict
        exact unknown (Table.mem_of_lookup dict)
  · intro resourceId r found
    dsimp only at found ⊢
    rcases Table.found_insert found with ⟨rfl,rfl⟩ | ⟨_,found⟩
    · exact ⟨info,AList.lookup_insert _,rfl⟩
    · obtain ⟨other,there,its⟩ := listed.known resourceId r found
      refine ⟨other,?_,its⟩
      rw [AList.lookup_insert_ne]
      · exact there
      · intro clash
        rw [clash] at there
        exact absent (Table.mem_of_lookup there)

theorem leave_listed (listed : Listed s) (found : s.resources.lookup resourceIndex = some info) : Listed (leaveTables s resourceIndex info) := by
  have own := listed.dict resourceIndex info found
  refine ⟨?_,?_,find_left listed.zone found,?_⟩
  · intro r other there
    obtain ⟨same,before⟩ := Table.found_erase there
    have dict := listed.dict r other before
    refine (AList.lookup_erase_ne ?_).trans dict
    intro clash
    rw [clash,own] at dict
    exact same (Option.some.inj dict).symm
  · intro resourceId r known
    obtain ⟨same,before⟩ := Table.found_erase known
    obtain ⟨other,there,its⟩ := listed.known resourceId r before
    refine ⟨other,(AList.lookup_erase_ne ?_).trans there,its⟩
    rintro rfl
    rw [found] at there
    cases there
    exact same its.symm
  · intro territoryId r
    rw [leaveTables,NestedTable.find_prune]
    exact find_left listed.territory found territoryId r

theorem change_listed (listed : Listed s) (found : s.resources.lookup resourceIndex = some info) {later : Resource} (id : later.resourceId = info.resourceId)
    (zone : later.zoneIndex = info.zoneIndex) (territory : later.territoryId = info.territoryId) :
    Listed {s with resources:=s.resources.insert resourceIndex later} := by
  have either (r : Nat) (other : Resource) : (s.resources.insert resourceIndex later).lookup r = some other →
      ∃ before, s.resources.lookup r = some before ∧ other.resourceId = before.resourceId ∧ other.zoneIndex = before.zoneIndex ∧
        other.territoryId = before.territoryId := by
    intro there
    rcases Table.found_insert there with ⟨rfl,rfl⟩ | ⟨_,there⟩
    · exact ⟨info,found,id,zone,territory⟩
    · exact ⟨other,there,rfl,rfl,rfl⟩
  have back (r : Nat) (before : Resource) : s.resources.lookup r = some before → ∃ other, (s.resources.insert resourceIndex later).lookup r = some other ∧
      other.resourceId = before.resourceId ∧ other.zoneIndex = before.zoneIndex ∧ other.territoryId = before.territoryId := by
    intro there
    by_cases same : r = resourceIndex
    · subst same
      rw [found] at there
      cases there
      exact ⟨later,AList.lookup_insert _,id,zone,territory⟩
    · exact ⟨before,(AList.lookup_insert_ne same).trans there,rfl,rfl,rfl⟩
  refine ⟨?_,?_,?_,?_⟩
  · intro r other there
    obtain ⟨before,was,id,_,_⟩ := either r other there
    rw [id]
    exact listed.dict r before was
  · intro resourceId r known
    obtain ⟨before,was,its⟩ := listed.known resourceId r known
    obtain ⟨other,there,id,_,_⟩ := back r before was
    exact ⟨other,there,id.trans its⟩
  · intro zoneIndex r
    refine (listed.zone zoneIndex r).trans ⟨?_,?_⟩
    · rintro ⟨before,was,its⟩
      obtain ⟨other,there,_,zone,_⟩ := back r before was
      exact ⟨other,there,zone.trans its⟩
    · rintro ⟨other,there,its⟩
      obtain ⟨before,was,_,zone,_⟩ := either r other there
      exact ⟨before,was,zone.symm.trans its⟩
  · intro territoryId r
    refine (listed.territory territoryId r).trans ⟨?_,?_⟩
    · rintro ⟨before,was,its⟩
      obtain ⟨other,there,_,_,territory⟩ := back r before was
      exact ⟨other,there,territory.trans its⟩
    · rintro ⟨other,there,its⟩
      obtain ⟨before,was,_,_,territory⟩ := either r other there
      exact ⟨before,was,territory.symm.trans its⟩

end listed

section timers
variable {cfg : Config} {s t : State} {resourceIndex : Nat} {info : Resource}

-- The bucket of a time has the index.
def Waits (s : State) (time : Int) (resourceIndex : Nat) : Prop := ∃ timer, s.resourceTimers.lookup time = some timer ∧ resourceIndex ∈ timer.resourceIndexs

-- Every bucket has its timer, and a node that is in none is gathered beyond its end.
structure Sound (cfg : Config) (s : State) : Prop where
  listed : Listed s
  timed : ∀ time resourceIndex, Waits s time resourceIndex → ∃ info, s.resources.lookup resourceIndex = some info ∧ endTime cfg info = time
  due : ∀ resourceIndex info, s.resources.lookup resourceIndex = some info →
    Waits s (endTime cfg info) resourceIndex ∨ info.collected = true ∧ endTime cfg info ≤ s.now
  pending : ∀ time timer, s.resourceTimers.lookup time = some timer → s.timers.lookup timer.timerId = some time
  issued : ∀ timerId ∈ s.timers, timerId < s.timerId

theorem started_sound (now : Int) : Sound cfg (started now) := by
  have no_resource (r : Nat) (info : Resource) (found : (started now).resources.lookup r = some info) : False := by cases found
  refine ⟨⟨fun r info found => (no_resource r info found).elim,fun _ _ found => ?_,fun zoneIndex r => ?_,fun territoryId r => ?_⟩,?_,
    fun r info found => (no_resource r info found).elim,fun _ _ found => ?_,?_⟩
  · cases found
  · exact iff_of_false (fun found => nomatch found) (fun ⟨info,found,_⟩ => no_resource r info found)
  · exact iff_of_false (fun found => nomatch found) (fun ⟨info,found,_⟩ => no_resource r info found)
  · rintro time r ⟨timer,found,_⟩
    cases found
  · cases found
  · intro timerId mem
    exact absurd mem (AList.notMem_empty timerId)

theorem waits_addTimeOut (time : Int) (resourceIndex : Nat) (other : Int) (r : Nat) :
    Waits (addTimeOut s time resourceIndex) other r ↔ other = time ∧ r = resourceIndex ∨ Waits s other r := by
  unfold addTimeOut
  by_cases same : other = time
  · subst same
    cases found : s.resourceTimers.lookup other with
    | some timer =>
      constructor
      · rintro ⟨bucket,there,mem⟩
        rw [AList.lookup_insert] at there
        cases there
        rcases (AList.mem_insert _).mp mem with rfl | before
        · exact .inl ⟨rfl,rfl⟩
        · exact .inr ⟨timer,found,before⟩
      · rintro (⟨_,rfl⟩ | ⟨bucket,there,mem⟩)
        · exact ⟨_,AList.lookup_insert _,(AList.mem_insert _).mpr (.inl rfl)⟩
        · rw [found] at there
          cases there
          exact ⟨_,AList.lookup_insert _,(AList.mem_insert _).mpr (.inr mem)⟩
    | none =>
      constructor
      · rintro ⟨bucket,there,mem⟩
        rw [AList.lookup_insert] at there
        cases there
        exact .inl ⟨rfl,List.mem_singleton.mp (AList.mem_keys.mp mem)⟩
      · rintro (⟨_,rfl⟩ | ⟨bucket,there,_⟩)
        · exact ⟨_,AList.lookup_insert _,AList.mem_keys.mpr List.mem_cons_self⟩
        · rw [found] at there
          cases there
  · have beside : (addTimeOut s time resourceIndex).resourceTimers.lookup other = s.resourceTimers.lookup other := by
      unfold addTimeOut
      split <;> exact AList.lookup_insert_ne same
    unfold addTimeOut at beside
    unfold Waits
    rw [beside]
    exact ⟨.inr,fun either => either.resolve_left (fun both => same both.1)⟩

theorem addTimeOut_pending (pending : ∀ time timer, s.resourceTimers.lookup time = some timer → s.timers.lookup timer.timerId = some time)
    (issued : ∀ timerId ∈ s.timers, timerId < s.timerId) (time : Int) (resourceIndex : Nat) :
    (∀ other timer, (addTimeOut s time resourceIndex).resourceTimers.lookup other = some timer →
      (addTimeOut s time resourceIndex).timers.lookup timer.timerId = some other) ∧
    ∀ timerId ∈ (addTimeOut s time resourceIndex).timers, timerId < (addTimeOut s time resourceIndex).timerId := by
  unfold addTimeOut
  cases found : s.resourceTimers.lookup time with
  | some timer =>
    refine ⟨?_,issued⟩
    intro other bucket there
    dsimp only at there ⊢
    rcases Table.found_insert there with ⟨rfl,rfl⟩ | ⟨_,there⟩
    · exact pending other timer found
    · exact pending other bucket there
  | none =>
    constructor
    · intro other bucket there
      dsimp only at there ⊢
      rcases Table.found_insert there with ⟨rfl,rfl⟩ | ⟨_,there⟩
      · exact AList.lookup_insert _
      · have before := pending other bucket there
        rw [AList.lookup_insert_ne]
        · exact before
        · intro clash
          exact absurd (issued _ (Table.mem_of_lookup before)) (by rw [clash]; exact Nat.lt_irrefl _)
    · intro timerId mem
      rcases (AList.mem_insert _).mp mem with rfl | before
      · exact Nat.lt_succ_self _
      · exact (issued timerId before).trans (Nat.lt_succ_self _)

theorem addTimeOut_rest (s : State) (time : Int) (resourceIndex : Nat) : (addTimeOut s time resourceIndex).resources = s.resources ∧
    (addTimeOut s time resourceIndex).resourceDict = s.resourceDict ∧ (addTimeOut s time resourceIndex).zoneResources = s.zoneResources ∧
    (addTimeOut s time resourceIndex).territoryResources = s.territoryResources ∧ (addTimeOut s time resourceIndex).now = s.now := by
  unfold addTimeOut
  split <;> exact ⟨rfl,rfl,rfl,rfl,rfl⟩

theorem enter_sound (sound : Sound cfg s) (absent : resourceIndex ∉ s.resources) (unknown : info.resourceId ∉ s.resourceDict) :
    Sound cfg (enterTables cfg s resourceIndex info) := by
  have entered := enter_listed sound.listed absent unknown
  unfold enterTables
  dsimp only
  generalize same : ({s with
    resources:=s.resources.insert resourceIndex info
    resourceDict:=s.resourceDict.insert info.resourceId resourceIndex
    zoneResources:=NestedTable.put s.zoneResources info.zoneIndex resourceIndex ()
    territoryResources:=NestedTable.put s.territoryResources info.territoryId resourceIndex ()} : State) = middle at entered
  have timers : middle.resourceTimers = s.resourceTimers ∧ middle.timers = s.timers ∧ middle.timerId = s.timerId ∧ middle.now = s.now ∧
      middle.resources = s.resources.insert resourceIndex info := by
    rw [← same]
    exact ⟨rfl,rfl,rfl,rfl,rfl⟩
  obtain ⟨buckets,sessions,issue,now,resources⟩ := timers
  obtain ⟨rows,dict,zone,territory,clock⟩ := addTimeOut_rest middle (endTime cfg info) resourceIndex
  have before (time : Int) (r : Nat) : Waits middle time r ↔ Waits s time r := by
    unfold Waits
    rw [buckets]
  have waiting := addTimeOut_pending (s:=middle) (by rw [buckets,sessions]; exact sound.pending) (by rw [sessions,issue]; exact sound.issued)
    (endTime cfg info) resourceIndex
  refine ⟨entered.congr rows dict zone territory,?_,?_,waiting.1,waiting.2⟩
  · intro time r waits
    rw [rows,resources]
    rcases (waits_addTimeOut _ _ _ _).mp waits with ⟨rfl,rfl⟩ | old
    · exact ⟨info,AList.lookup_insert _,rfl⟩
    · obtain ⟨other,there,its⟩ := sound.timed time r ((before time r).mp old)
      refine ⟨other,(AList.lookup_insert_ne ?_).trans there,its⟩
      rintro rfl
      exact absent (Table.mem_of_lookup there)
  · intro r other there
    rw [rows,resources] at there
    rw [waits_addTimeOut,clock,now]
    rcases Table.found_insert there with ⟨rfl,rfl⟩ | ⟨_,there⟩
    · exact .inl (.inl ⟨rfl,rfl⟩)
    · exact (sound.due r other there).imp (fun waits => .inr ((before _ _).mpr waits)) id

theorem waits_leaveTimeOut (s : State) (time : Int) (resourceIndex : Nat) (other : Int) (r : Nat) :
    Waits (leaveTimeOut s time resourceIndex) other r ↔ Waits s other r ∧ ¬(other = time ∧ r = resourceIndex) := by
  unfold leaveTimeOut
  cases found : s.resourceTimers.lookup time with
  | none =>
    refine ⟨fun waits => ⟨waits,?_⟩,And.left⟩
    rintro ⟨rfl,_⟩
    obtain ⟨bucket,there,_⟩ := waits
    rw [found] at there
    cases there
  | some timer =>
    dsimp only
    by_cases mem : resourceIndex ∈ timer.resourceIndexs
    · rw [if_pos mem]
      have own (bucket : TimeOut) : s.resourceTimers.lookup time = some bucket → bucket = timer := fun there => Option.some.inj (there.symm.trans found)
      split
      · rename_i empty
        constructor
        · rintro ⟨bucket,there,inside⟩
          obtain ⟨same,there⟩ := Table.found_erase there
          exact ⟨⟨bucket,there,inside⟩,fun both => same both.1⟩
        · rintro ⟨⟨bucket,there,inside⟩,apart⟩
          by_cases same : other = time
          · subst same
            obtain rfl := own bucket there
            have left : r ∈ bucket.resourceIndexs.erase resourceIndex := AList.mem_erase.mpr ⟨fun its => apart ⟨rfl,its⟩,inside⟩
            rw [AList.mem_keys,empty] at left
            cases left
          · exact ⟨bucket,(AList.lookup_erase_ne same).trans there,inside⟩
      · constructor
        · rintro ⟨bucket,there,inside⟩
          rcases Table.found_insert there with ⟨rfl,rfl⟩ | ⟨same,there⟩
          · obtain ⟨differs,before⟩ := AList.mem_erase.mp inside
            exact ⟨⟨timer,found,before⟩,fun both => differs both.2⟩
          · exact ⟨⟨bucket,there,inside⟩,fun both => same both.1⟩
        · rintro ⟨⟨bucket,there,inside⟩,apart⟩
          by_cases same : other = time
          · subst same
            obtain rfl := own bucket there
            exact ⟨_,AList.lookup_insert _,AList.mem_erase.mpr ⟨fun its => apart ⟨rfl,its⟩,inside⟩⟩
          · exact ⟨bucket,(AList.lookup_insert_ne same).trans there,inside⟩
    · rw [if_neg mem]
      refine ⟨fun waits => ⟨waits,?_⟩,And.left⟩
      rintro ⟨rfl,rfl⟩
      obtain ⟨bucket,there,inside⟩ := waits
      rw [found] at there
      cases there
      exact mem inside

theorem leaveTimeOut_pending (pending : ∀ time timer, s.resourceTimers.lookup time = some timer → s.timers.lookup timer.timerId = some time)
    (issued : ∀ timerId ∈ s.timers, timerId < s.timerId) (time : Int) (resourceIndex : Nat) :
    (∀ other timer, (leaveTimeOut s time resourceIndex).resourceTimers.lookup other = some timer →
      (leaveTimeOut s time resourceIndex).timers.lookup timer.timerId = some other) ∧
    ∀ timerId ∈ (leaveTimeOut s time resourceIndex).timers, timerId < (leaveTimeOut s time resourceIndex).timerId := by
  unfold leaveTimeOut
  cases found : s.resourceTimers.lookup time with
  | none => exact ⟨pending,issued⟩
  | some timer =>
    dsimp only
    split
    · split
      · constructor
        · intro other bucket there
          dsimp only at there ⊢
          obtain ⟨same,there⟩ := Table.found_erase there
          have before := pending other bucket there
          rw [AList.lookup_erase_ne]
          · exact before
          · intro clash
            rw [clash,pending time timer found] at before
            exact same (Option.some.inj before).symm
        · intro timerId mem
          exact issued timerId (AList.mem_erase.mp mem).2
      · refine ⟨?_,issued⟩
        intro other bucket there
        dsimp only at there ⊢
        rcases Table.found_insert there with ⟨rfl,rfl⟩ | ⟨_,there⟩
        · exact pending other timer found
        · exact pending other bucket there
    · exact ⟨pending,issued⟩

theorem leaveTimeOut_rest (s : State) (time : Int) (resourceIndex : Nat) : (leaveTimeOut s time resourceIndex).resources = s.resources ∧
    (leaveTimeOut s time resourceIndex).resourceDict = s.resourceDict ∧ (leaveTimeOut s time resourceIndex).zoneResources = s.zoneResources ∧
    (leaveTimeOut s time resourceIndex).territoryResources = s.territoryResources ∧ (leaveTimeOut s time resourceIndex).now = s.now := by
  unfold leaveTimeOut
  split
  · exact ⟨rfl,rfl,rfl,rfl,rfl⟩
  · dsimp only
    split
    · split <;> exact ⟨rfl,rfl,rfl,rfl,rfl⟩
    · exact ⟨rfl,rfl,rfl,rfl,rfl⟩

-- A node that goes leaves the bucket of its end as well.
theorem leave_sound (sound : Sound cfg s) (found : s.resources.lookup resourceIndex = some info) :
    Sound cfg (leaveTables (leaveTimeOut s (endTime cfg info) resourceIndex) resourceIndex info) := by
  obtain ⟨rows,dict,zone,territory,clock⟩ := leaveTimeOut_rest s (endTime cfg info) resourceIndex
  have waiting := leaveTimeOut_pending sound.pending sound.issued (endTime cfg info) resourceIndex
  refine ⟨leave_listed (sound.listed.congr rows dict zone territory) (by rw [rows]; exact found),?_,?_,waiting.1,waiting.2⟩
  · intro time r waits
    obtain ⟨before,apart⟩ := (waits_leaveTimeOut s _ _ time r).mp waits
    obtain ⟨other,there,its⟩ := sound.timed time r before
    refine ⟨other,(AList.lookup_erase_ne ?_).trans (by rw [rows]; exact there),its⟩
    rintro rfl
    rw [found] at there
    cases there
    exact apart ⟨its.symm,rfl⟩
  · intro r other there
    obtain ⟨same,before⟩ := Table.found_erase there
    rw [rows] at before
    rcases sound.due r other before with waits | late
    · exact .inl ((waits_leaveTimeOut s _ _ _ r).mpr ⟨waits,fun both => same both.2⟩)
    · refine .inr ⟨late.1,?_⟩
      change endTime cfg other ≤ (leaveTimeOut s (endTime cfg info) resourceIndex).now
      rw [clock]
      exact late.2

-- A node that changes hands keeps its end; it may only be let go of before that.
theorem change_sound (sound : Sound cfg s) (found : s.resources.lookup resourceIndex = some info) {later : Resource} (id : later.resourceId = info.resourceId)
    (zone : later.zoneIndex = info.zoneIndex) (territory : later.territoryId = info.territoryId) (still : endTime cfg later = endTime cfg info)
    (free : info.collected = true → endTime cfg info ≤ s.now → later.collected = true) : Sound cfg {s with resources:=s.resources.insert resourceIndex later} := by
  refine ⟨change_listed sound.listed found id zone territory,?_,?_,sound.pending,sound.issued⟩
  · intro time r waits
    obtain ⟨other,there,its⟩ := sound.timed time r waits
    by_cases same : r = resourceIndex
    · subst same
      rw [found] at there
      cases there
      exact ⟨later,AList.lookup_insert _,still.trans its⟩
    · exact ⟨other,(AList.lookup_insert_ne same).trans there,its⟩
  · intro r other there
    dsimp only at there
    rcases Table.found_insert there with ⟨rfl,rfl⟩ | ⟨_,there⟩
    · rw [still]
      rcases sound.due r info found with waits | ⟨busy,late⟩
      · exact .inl waits
      · exact .inr ⟨free busy late,late⟩
    · exact sound.due r other there

theorem collectFinish_sound (sound : Sound cfg s) (resourceIndex : Nat) (gathered load : Int) : Sound cfg (collectFinish cfg s resourceIndex gathered load) := by
  unfold collectFinish
  cases found : s.resources.lookup resourceIndex with
  | none => exact sound
  | some info =>
    dsimp only
    split
    · exact sound
    · generalize (if info.resourceAmount < gathered then info.resourceAmount else gathered) = collectNum
      generalize (if collectNum < load then collectNum else load) = collectAmount
      split
      · exact leave_sound sound found
      · rename_i stays
        exact change_sound sound found rfl rfl rfl rfl (fun _ late => absurd (.inr late) stays)

theorem collectResource_sound (sound : Sound cfg s) (rid : Int) (armyIndex resourceIndex : Nat) (collectSpeed : Int) :
    Sound cfg (collectResource s rid armyIndex resourceIndex collectSpeed) := by
  unfold collectResource
  cases found : s.resources.lookup resourceIndex with
  | none => exact sound
  | some info =>
    dsimp only
    split
    · exact sound
    · rename_i idle
      exact change_sound sound found rfl rfl rfl rfl (fun busy => absurd busy idle)

-- What the loop of resourceTimeOut has done so far: nodes of the bucket are gone.
structure Clearing (cfg : Config) (s middle : State) (time : Int) : Prop where
  listed : Listed middle
  less : ∀ r info, middle.resources.lookup r = some info → s.resources.lookup r = some info
  kept : ∀ r info, s.resources.lookup r = some info → endTime cfg info ≠ time → middle.resources.lookup r = some info
  timers : middle.resourceTimers = s.resourceTimers ∧ middle.timers = s.timers ∧ middle.timerId = s.timerId ∧ middle.now = s.now

theorem timeOutOf_clearing {middle : State} {time : Int} (clearing : Clearing cfg s middle time) (sound : Sound cfg s) (waits : Waits s time resourceIndex) :
    Clearing cfg s (timeOutOf middle resourceIndex) time := by
  unfold timeOutOf
  cases found : middle.resources.lookup resourceIndex with
  | none => exact clearing
  | some info =>
    dsimp only
    split
    · exact clearing
    · refine ⟨leave_listed clearing.listed found,?_,?_,clearing.timers⟩
      · intro r other there
        exact clearing.less r other (Table.found_erase there).2
      · intro r other there differs
        refine (AList.lookup_erase_ne ?_).trans (clearing.kept r other there differs)
        rintro rfl
        obtain ⟨own,its,ends⟩ := sound.timed time r waits
        rw [there] at its
        cases its
        exact differs ends

theorem timeOutOf_other {middle : State} {r : Nat} (other : resourceIndex ≠ r) : (timeOutOf middle resourceIndex).resources.lookup r = middle.resources.lookup r := by
  unfold timeOutOf
  split
  · rfl
  · split
    · rfl
    · exact AList.lookup_erase_ne other.symm

theorem timeOutOf_own {middle : State} : ∀ info, (timeOutOf middle resourceIndex).resources.lookup resourceIndex = some info → info.collected = true := by
  intro info there
  unfold timeOutOf at there
  cases found : middle.resources.lookup resourceIndex with
  | none =>
    simp only [found] at there
    cases there
  | some held =>
    simp only [found] at there
    split at there
    · rw [found] at there
      cases there
      assumption
    · exact absurd rfl (Table.found_erase there).1

theorem resourceTimeOut_sound (order : Order Nat) (sound : Sound cfg s) {time : Int} (late : time ≤ s.now) : Sound cfg (resourceTimeOut order s time) := by
  let resourceIndexs := ((s.resourceTimers.lookup time).map (·.resourceIndexs)).getD ∅
  have inside (r : Nat) (v : Unit) : resourceIndexs.lookup r = some v → Waits s time r := by
    intro there
    cases found : s.resourceTimers.lookup time with
    | none =>
      simp only [resourceIndexs,found] at there
      cases there
    | some timer =>
      simp only [resourceIndexs,found] at there
      exact ⟨timer,found,Table.mem_of_lookup there⟩
  have begun : Clearing cfg s s time := ⟨sound.listed,fun _ _ => id,fun _ _ there _ => there,rfl,rfl,rfl,rfl⟩
  have clears : ∀ middle r v, resourceIndexs.lookup r = some v → Clearing cfg s middle time → Clearing cfg s (timeOutOf middle r) time :=
    fun _ r v there clearing => timeOutOf_clearing clearing sound (inside r v there)
  have clearing : Clearing cfg s (Table.forEach order resourceIndexs (fun s r _ => timeOutOf s r) s) time := Table.forEach_keeps clears begun
  have gone (r : Nat) (info : Resource) : Waits s time r →
      (Table.forEach order resourceIndexs (fun s r _ => timeOutOf s r) s).resources.lookup r = some info → info.collected = true := by
    rintro ⟨timer,found,mem⟩ there
    have listed : resourceIndexs.lookup r = some () := by
      simp only [resourceIndexs,found]
      obtain ⟨v,its⟩ := Table.lookup_of_mem mem
      exact its
    have once : ∃ middle : State, middle.resources.lookup r = s.resources.lookup r ∧
        (Table.forEach order resourceIndexs (fun s r _ => timeOutOf s r) s).resources.lookup r = (timeOutOf middle r).resources.lookup r :=
      Table.forEach_at (fun s : State => s.resources.lookup r) (fun _ _ _ other => timeOutOf_other other) listed s
    obtain ⟨middle,_,same⟩ := once
    rw [same] at there
    exact timeOutOf_own info there
  obtain ⟨listed,less,kept,buckets,sessions,issue,clock⟩ := clearing
  have waits (other : Int) (r : Nat) : Waits (resourceTimeOut order s time) other r ↔ Waits s other r ∧ other ≠ time := by
    have here : (resourceTimeOut order s time).resourceTimers = s.resourceTimers.erase time := congrArg (AList.erase time) buckets
    unfold Waits
    rw [here]
    constructor
    · rintro ⟨timer,there,mem⟩
      obtain ⟨same,there⟩ := Table.found_erase there
      exact ⟨⟨timer,there,mem⟩,same⟩
    · rintro ⟨⟨timer,there,mem⟩,same⟩
      exact ⟨timer,(AList.lookup_erase_ne same).trans there,mem⟩
  refine ⟨listed.congr rfl rfl rfl rfl,?_,?_,?_,?_⟩
  · intro other r still
    obtain ⟨before,differs⟩ := (waits other r).mp still
    obtain ⟨info,there,its⟩ := sound.timed other r before
    exact ⟨info,kept r info there (by rw [its]; exact differs),its⟩
  · intro r info there
    have before := less r info there
    rw [waits]
    change _ ∨ _ ∧ endTime cfg info ≤ (Table.forEach order resourceIndexs (fun s r _ => timeOutOf s r) s).now
    rw [clock]
    rcases sound.due r info before with bucket | ended
    · by_cases same : endTime cfg info = time
      · rw [same] at bucket ⊢
        exact .inr ⟨gone r info bucket there,late⟩
      · exact .inl ⟨bucket,same⟩
    · exact .inr ended
  · intro other timer there
    have before : (s.resourceTimers.erase time).lookup other = some timer := by
      rw [← buckets]
      exact there
    change (Table.forEach order resourceIndexs (fun s r _ => timeOutOf s r) s).timers.lookup timer.timerId = some other
    rw [sessions]
    exact sound.pending other timer (Table.found_erase before).2
  · intro timerId mem
    change timerId ∈ (Table.forEach order resourceIndexs (fun s r _ => timeOutOf s r) s).timers at mem
    change timerId < (Table.forEach order resourceIndexs (fun s r _ => timeOutOf s r) s).timerId
    rw [sessions] at mem
    rw [issue]
    exact sound.issued timerId mem

theorem timeOutOf_timers (s : State) (resourceIndex : Nat) : (timeOutOf s resourceIndex).timers = s.timers := by
  unfold timeOutOf
  split
  · rfl
  · split <;> rfl

theorem resourceTimeOut_timers (order : Order Nat) (s : State) (time : Int) : (resourceTimeOut order s time).timers = s.timers := by
  have kept : ∀ (middle : State) r (v : Unit), (((s.resourceTimers.lookup time).map TimeOut.resourceIndexs).getD ∅).lookup r = some v →
      middle.timers = s.timers → (timeOutOf middle r).timers = s.timers := fun middle r _ _ same => (timeOutOf_timers middle r).trans same
  exact Table.forEach_keeps kept rfl

-- A timer that has run is no longer needed: its bucket is gone.
theorem Sound.fired (sound : Sound cfg s) {timerId : Nat} {time : Int} (ran : s.timers.lookup timerId = some time) (gone : s.resourceTimers.lookup time = none) :
    Sound cfg {s with timers:=s.timers.erase timerId} := by
  refine ⟨sound.listed.congr rfl rfl rfl rfl,sound.timed,sound.due,?_,fun id mem => sound.issued id (AList.mem_erase.mp mem).2⟩
  intro other timer there
  have before := sound.pending other timer there
  refine (AList.lookup_erase_ne ?_).trans before
  intro clash
  rw [clash,ran] at before
  cases before
  rw [gone] at there
  cases there

theorem next_sound (sound : Sound cfg s) (label : Label) (fresh : Fresh s label) : Sound cfg (next cfg s label) := by
  cases label with
  | addResource resourceId resourceIndex resourceTypeId pos refreshTime zoneIndex => exact enter_sound sound fresh.1 fresh.2
  | addResourceInfo resourceId resourceIndex info finish =>
    have entered := @enter_sound cfg s resourceIndex ⟨resourceId,cfg.getZoneIndexByPos info.objectPos,info.resourceId,info.refreshTime,info.objectPos,
      info.collectRid,info.collectSpeed,info.collectTime,info.armyIndex,info.resourceAmount,cfg.getPosTerritoryId info.objectPos⟩ sound fresh.1 fresh.2
    rw [next,addResourceInfo]
    split
    · cases finish with
      | none => exact entered
      | some load => exact collectFinish_sound entered _ _ _
    · exact entered
  | collectResource rid armyIndex resourceIndex collectSpeed => exact collectResource_sound sound _ _ _ _
  | collectFinish resourceIndex gathered load => exact collectFinish_sound sound _ _ _
  | resourceTimeOut order timerId =>
    rw [next]
    cases found : s.timers.lookup timerId with
    | none => exact sound
    | some time =>
      dsimp only
      split
      · exact sound
      · rename_i late
        have fired := (resourceTimeOut_sound order sound (Int.not_lt.mp late)).fired (by rw [resourceTimeOut_timers]; exact found) (AList.lookup_erase _ _)
        rw [resourceTimeOut_timers] at fired
        exact fired
  | wait seconds =>
    refine ⟨sound.listed.congr rfl rfl rfl rfl,sound.timed,?_,sound.pending,sound.issued⟩
    intro r info there
    refine (sound.due r info there).imp id (fun ended => ⟨ended.1,?_⟩)
    exact ended.2.trans (Int.le_add_of_nonneg_right (Int.natCast_nonneg seconds))

end timers

-- The tables agree in every state, and a node that nobody gathers is gone once the timer
-- of its end has run.
theorem indexes_agree (cfg : Config) (now : Int) {labels : List Label} {s : State}
    (path : Runs (Guarded (fun s label t => t = next cfg s label) Fresh) (started now) labels s) :
    Agrees cfg s ∧ ∀ resourceIndex info, s.resources.lookup resourceIndex = some info → info.collected = false →
      (∃ timerId, s.timers.lookup timerId = some (endTime cfg info)) ∧
      ((∀ timerId time, s.timers.lookup timerId = some time → s.now < time) → s.now < endTime cfg info) := by
  have sound : Sound cfg s := by
    refine path.invariant ?_ (started_sound now)
    rintro before label after sound ⟨rfl,fresh⟩
    exact next_sound sound label fresh
  refine ⟨⟨sound.listed,fun time timer found r mem => sound.timed time r ⟨timer,found,mem⟩⟩,?_⟩
  intro r info there idle
  have waits : Waits s (endTime cfg info) r := by
    refine (sound.due r info there).resolve_right (fun ended => ?_)
    rw [idle] at ended
    cases ended.1
  obtain ⟨timer,found,_⟩ := waits
  have pending := sound.pending _ timer found
  exact ⟨⟨timer.timerId,pending⟩,fun inTime => inTime timer.timerId _ pending⟩

-- A node whose end passes while it is gathered goes with the end of gathering.
def gathered : List Label := [.addResource 70 7 1 (0,0) 0 3,.wait 5,.collectResource 1 1 7 10,.wait 5,.resourceTimeOut .stored 0,.collectFinish 7 4 9]

def plains : Config := ⟨fun _ => ⟨10,100⟩,fun _ => 3,fun _ => 4⟩

theorem gathered_agrees : Agrees plains (gathered.foldl (next plains) (started 0)) ∧
    (∀ resourceIndex info, (gathered.foldl (next plains) (started 0)).resources.lookup resourceIndex = some info → info.collected = false →
      (∃ timerId, (gathered.foldl (next plains) (started 0)).timers.lookup timerId = some (endTime plains info)) ∧
      ((∀ timerId time, (gathered.foldl (next plains) (started 0)).timers.lookup timerId = some time → (gathered.foldl (next plains) (started 0)).now < time) →
        (gathered.foldl (next plains) (started 0)).now < endTime plains info)) := by
  refine @indexes_agree plains 0 gathered _ (.more ⟨rfl,AList.notMem_empty _,AList.notMem_empty _⟩ ?_)
  exact .more ⟨rfl,trivial⟩ (.more ⟨rfl,trivial⟩ (.more ⟨rfl,trivial⟩ (.more ⟨rfl,trivial⟩ (.more ⟨rfl,trivial⟩ .done))))

end OriginGame.ResourceMgr
