import OriginGame.TimerTables

namespace OriginGame.RoleTimerLogic
variable {r after : Role} {timeStamp other : Int} {timerIndex : Nat} {info : Info}

section ticks

-- Every pending timer is under a time stamp that a tick will come to, and every timer that
-- was added is pending unless it was called or deleted.
structure Sound (r : Role) : Prop where
  sorted : ∀ timeStamp bucket, r.bucketAt timeStamp = some bucket → ∃ sorts, r.roleTimerSorts = some sorts ∧ timeStamp ∈ sorts
  fresh : ∀ timeStamp bucket, r.bucketAt timeStamp = some bucket → bucket.id < r.nextBucket ∧ r.detached.lookup (timeStamp,bucket.id) = none
  away : ∀ timeStamp id infos, r.detached.lookup (timeStamp,id) = some infos → id < r.nextBucket
  proper : Proper r.history
  below : ∀ timerIndex timeStamp info, .added timerIndex timeStamp info ∈ r.history → timerIndex < r.timerIndex
  pending : ∀ timeStamp timerIndex info, r.find timeStamp timerIndex = some info →
    .added timerIndex timeStamp info ∈ r.history ∧ ¬Deleted r.history timerIndex
  account : ∀ timerIndex timeStamp info, .added timerIndex timeStamp info ∈ r.history →
    Called r.history timerIndex ∨ Deleted r.history timerIndex ∨ r.find timeStamp timerIndex = some info
  complete : ∀ due, .ended due ∈ r.history → ∀ timerIndex ∈ due, Called r.history timerIndex ∨ Deleted r.history timerIndex

-- A timer due when the tick began is done, or still to come under one of these time stamps.
def Due (r : Role) (l : Locals) (coming : Int → Prop) : Prop := ∀ timerIndex ∈ l.due, Called r.history timerIndex ∨ Deleted r.history timerIndex ∨
  ∃ timeStamp info, r.find timeStamp timerIndex = some info ∧ timeStamp ≤ l.now ∧ coming timeStamp

-- No timer that was called is still pending.
def Quiet (r : Role) : Prop := ∀ timeStamp timerIndex info, r.find timeStamp timerIndex = some info → ¬Called r.history timerIndex

def Done (r : Role) (l : Locals) : Prop := ∀ timerIndex ∈ l.due, Called r.history timerIndex ∨ Deleted r.history timerIndex

-- Between two time stamps.
structure Walking (r : Role) (l : Locals) (left : List Int) : Prop where
  quiet : Quiet r
  begun : ∀ timeStamp ∈ l.deleteTimers, r.bucketAt timeStamp = none
  due : Due r l (· ∈ left)

-- In the function of a timer: those of its time stamp that are not to be visited any more
-- have been called.
structure Calling (r : Role) (l : Locals) (left : List Int) (timeStamp : Int) (id : Nat) (keys : List Nat) : Prop where
  late : timeStamp ≤ l.now
  begun : ∀ other ∈ l.deleteTimers, r.bucketAt other = none
  bucket : ∀ bucket, r.bucketAt timeStamp = some bucket → bucket.id = id
  gone : r.bucketAt timeStamp = none → r.detached.lookup (timeStamp,id) = none
  distinct : keys.Nodup
  uncalled : ∀ timerIndex ∈ keys, ∀ info, r.find timeStamp timerIndex = some info → ¬Called r.history timerIndex
  visited : ∀ timerIndex info, r.find timeStamp timerIndex = some info → timerIndex ∈ keys ∨ Called r.history timerIndex
  elsewhere : ∀ other timerIndex info, other ≠ timeStamp → r.find other timerIndex = some info → ¬Called r.history timerIndex
  due : Due r l (fun other => other ∈ left ∨ other = timeStamp)

def Good (r : Role) : Option Tick → Prop
  | none => Quiet r
  | some (.adding l _ _) => Quiet r ∧ Done r l
  | some (.calling l left timeStamp id keys _ _) => Calling r l left timeStamp id keys

theorem Due.mono {l : Locals} {coming still : Int → Prop} (due : Due r l coming)
    (part : ∀ timeStamp timerIndex info, r.find timeStamp timerIndex = some info → timeStamp ≤ l.now → coming timeStamp →
      still timeStamp ∨ Called r.history timerIndex) : Due r l still := by
  intro timerIndex mem
  rcases due timerIndex mem with called | deleted | ⟨timeStamp,info,found,late,comes⟩
  · exact .inl called
  · exact .inr (.inl deleted)
  · rcases part timeStamp timerIndex info found late comes with stays | called
    · exact .inr (.inr ⟨timeStamp,info,found,late,stays⟩)
    · exact .inl called

theorem Due.done {l : Locals} {coming : Int → Prop} (due : Due r l coming)
    (none : ∀ timeStamp timerIndex info, r.find timeStamp timerIndex = some info → timeStamp ≤ l.now → ¬coming timeStamp) : Done r l := by
  intro timerIndex mem
  rcases due timerIndex mem with called | deleted | ⟨timeStamp,info,found,late,comes⟩
  · exact .inl called
  · exact .inr deleted
  · exact absurd comes (none timeStamp timerIndex info found late)

-- A mark that adds and deletes nothing leaves the tables right.
theorem Sound.marked (sound : Sound r) {mark : Mark} (adds : ∀ timerIndex timeStamp info, mark ≠ .added timerIndex timeStamp info)
    (deletes : ∀ timerIndex, mark ≠ .deleted timerIndex) (proper : Proper (mark::r.history))
    (complete : ∀ due, mark = .ended due → ∀ timerIndex ∈ due, Called r.history timerIndex ∨ Deleted r.history timerIndex) :
    Sound {r with history:=mark::r.history} := by
  have older {j ts i} (there : .added j ts i ∈ mark::r.history) : .added j ts i ∈ r.history :=
    (List.mem_cons.mp there).resolve_left (fun same => adds j ts i same.symm)
  refine ⟨sound.sorted,sound.fresh,sound.away,proper,?_,?_,?_,?_⟩
  · intro j ts i there
    exact sound.below j ts i (older there)
  · intro ts j i there
    obtain ⟨mem,not⟩ := sound.pending ts j i there
    exact ⟨List.mem_cons_of_mem _ mem,fun deleted => not ((deleted_cons (deletes j)).mp deleted)⟩
  · intro j ts i there
    rcases sound.account j ts i (older there) with called | deleted | pending
    · exact .inl (called.later _)
    · exact .inr (.inl (List.mem_cons_of_mem _ deleted))
    · exact .inr (.inr pending)
  · intro due there j mem
    have done : Called r.history j ∨ Deleted r.history j := by
      rcases List.mem_cons.mp there with same | before
      · exact complete due same.symm j mem
      · exact sound.complete due before j mem
    exact done.imp (fun called => called.later _) (List.mem_cons_of_mem _)

-- The mark of a call, for a timer that is pending and was not called.
theorem Sound.call (sound : Sound r) (found : r.find timeStamp timerIndex = some info) (quiet : ¬Called r.history timerIndex) (late : timeStamp ≤ now) :
    Sound {r with history:=.called timerIndex now::r.history} := by
  obtain ⟨added,kept⟩ := sound.pending timeStamp timerIndex info found
  exact sound.marked nofun nofun ⟨quiet,kept,⟨timeStamp,info,added,late⟩,sound.proper⟩ nofun

theorem Sound.ended {l : Locals} (sound : Sound r) (done : Done r l) : Sound {r with history:=.ended l.due::r.history} := by
  refine sound.marked nofun nofun sound.proper ?_
  intro due same j mem
  cases same
  exact done j mem

theorem ended_good {l : Locals} (sound : Sound r) (quiet : Quiet r) (done : Done r l) :
    Sound (ended r l).1 ∧ Good (ended r l).1 (ended r l).2 := by
  refine ⟨sound.ended done,fun ts j i there called => ?_⟩
  exact quiet ts j i there ((called_cons (by nofun)).mp called)

-- Going on to the next timer of a bucket.
theorem call_good {id : Nat} {infos : Table Nat Info} (sound : Sound r) (calling : Calling r l left timeStamp id keys)
    (here : ∀ timerIndex, infos.lookup timerIndex = r.find timeStamp timerIndex) (found : nextTimer infos keys = some next) :
    Sound (call r l left timeStamp id next).1 ∧ Good (call r l left timeStamp id next).1 (call r l left timeStamp id next).2 := by
  obtain ⟨k,info,rest⟩ := next
  obtain ⟨there,skipped,split,missing⟩ := nextTimer_some found
  rw [here] at there
  subst split
  have first : k ∈ skipped++k::rest := List.mem_append_right _ List.mem_cons_self
  obtain ⟨fresh,tail⟩ := List.nodup_cons.mp (List.nodup_append.mp calling.distinct).2.1
  have still (j : Nat) (other : k ≠ j) : Called (.called k l.now::r.history) j ↔ Called r.history j :=
    called_cons (fun _ back => other (Mark.called.inj back).1)
  refine ⟨sound.call there (calling.uncalled k first info there) calling.late,
    calling.late,calling.begun,calling.bucket,calling.gone,tail,?_,?_,?_,?_⟩
  · intro j mem i pending
    have other : k ≠ j := fun same => fresh (same ▸ mem)
    exact fun called => calling.uncalled j (List.mem_append_right _ (List.mem_cons_of_mem _ mem)) i pending ((still j other).mp called)
  · intro j i pending
    rcases calling.visited j i pending with mem | called
    · rcases List.mem_append.mp mem with early | later
      · have none := missing j early
        rw [here] at none
        exact absurd (pending.symm.trans none) nofun
      · rcases List.mem_cons.mp later with rfl | after
        · exact .inr ⟨l.now,List.mem_cons_self⟩
        · exact .inl after
    · exact .inr (called.later _)
  · intro other j i away pending
    have differs : k ≠ j := by
      rintro rfl
      exact away (sound.proper.once (sound.pending other k i pending).1 (sound.pending timeStamp k info there).1).1
    exact fun called => calling.elsewhere other j i away pending ((still j differs).mp called)
  · intro j mem
    rcases calling.due j mem with called | deleted | pending
    · exact .inl (called.later _)
    · exact .inr (.inl (List.mem_cons_of_mem _ deleted))
    · exact .inr (.inr pending)

theorem detached_drop (r : Role) (timeStamp : Int) : (r.drop timeStamp).detached = r.detached ∨
    ∃ bucket, r.bucketAt timeStamp = some bucket ∧ (r.drop timeStamp).detached = r.detached.insert (timeStamp,bucket.id) bucket.infos := by
  unfold Role.drop
  split
  · exact .inl rfl
  next table there =>
    split
    · exact .inl rfl
    next bucket found => exact .inr ⟨bucket,(bucketAt_table there timeStamp).trans found,rfl⟩

theorem drop_rest (r : Role) (timeStamp : Int) : (r.drop timeStamp).history = r.history ∧ (r.drop timeStamp).roleTimerSorts = r.roleTimerSorts ∧
    (r.drop timeStamp).timerIndex = r.timerIndex ∧ (r.drop timeStamp).nextBucket = r.nextBucket := by
  unfold Role.drop
  split
  · exact ⟨rfl,rfl,rfl,rfl⟩
  · split <;> exact ⟨rfl,rfl,rfl,rfl⟩

theorem Calling.called {id : Nat} (calling : Calling r l left timeStamp id keys) (done : ∀ timerIndex ∈ keys, r.find timeStamp timerIndex = none)
    (pending : r.find timeStamp timerIndex = some info) : Called r.history timerIndex := by
  rcases calling.visited timerIndex info pending with mem | called
  · exact absurd (pending.symm.trans (done timerIndex mem)) nofun
  · exact called

theorem find_dropped (pending : (r.drop timeStamp).find other timerIndex = some info) : other ≠ timeStamp ∧ r.find other timerIndex = some info := by
  rw [find_drop] at pending
  split at pending
  · cases pending
  next away => exact ⟨away,pending⟩

-- A bucket whose timers have all been called is dropped without losing one.
theorem drop_sound {id : Nat} (sound : Sound r) (calling : Calling r l left timeStamp id keys)
    (done : ∀ timerIndex ∈ keys, r.find timeStamp timerIndex = none) : Sound (r.drop timeStamp) := by
  obtain ⟨history,sorts,index,buckets⟩ := drop_rest r timeStamp
  refine ⟨?_,?_,?_,?_,?_,?_,?_,?_⟩
  · intro other bucket there
    rw [bucketAt_drop] at there
    split at there
    · cases there
    · rw [sorts]
      exact sound.sorted other bucket there
  · intro other bucket there
    rw [bucketAt_drop] at there
    split at there
    · cases there
    next away =>
      obtain ⟨below,loose⟩ := sound.fresh other bucket there
      rw [buckets]
      refine ⟨below,?_⟩
      rcases detached_drop r timeStamp with same | ⟨old,_,same⟩
      · rwa [same]
      · rw [same,AList.lookup_insert_ne (fun both => away (Prod.mk.inj both).1)]
        exact loose
  · intro other b infos there
    rw [buckets]
    rcases detached_drop r timeStamp with same | ⟨old,found,same⟩
    · rw [same] at there
      exact sound.away other b infos there
    · rw [same] at there
      by_cases own : (other,b) = (timeStamp,old.id)
      · obtain ⟨rfl,rfl⟩ := Prod.mk.inj own
        exact (sound.fresh _ old found).1
      · rw [AList.lookup_insert_ne own] at there
        exact sound.away other b infos there
  · rw [history]
    exact sound.proper
  · rw [history,index]
    exact sound.below
  · intro other j i pending
    rw [history]
    exact sound.pending other j i (find_dropped pending).2
  · intro j other i added
    rw [history] at added ⊢
    rcases sound.account j other i added with done | deleted | pending
    · exact .inl done
    · exact .inr (.inl deleted)
    · by_cases away : other = timeStamp
      · subst away
        exact .inl (calling.called done pending)
      · rw [find_drop,if_neg away]
        exact .inr (.inr pending)
  · rw [history]
    exact sound.complete

theorem drop_walking {id : Nat} (calling : Calling r l left timeStamp id keys) (done : ∀ timerIndex ∈ keys, r.find timeStamp timerIndex = none) :
    Walking (r.drop timeStamp) (passed r l timeStamp) left := by
  obtain ⟨history,_,_,_⟩ := drop_rest r timeStamp
  refine ⟨?_,?_,?_⟩
  · intro other j i pending
    obtain ⟨away,before⟩ := find_dropped pending
    rw [history]
    exact calling.elsewhere other j i away before
  · intro other mem
    rw [bucketAt_drop]
    by_cases same : other = timeStamp
    · exact if_pos same
    · rw [if_neg same]
      unfold passed at mem
      split at mem
      · rcases List.mem_append.mp mem with early | own
        · exact calling.begun other early
        · exact absurd (List.mem_singleton.mp own) same
      · exact calling.begun other mem
  · have same : (passed r l timeStamp).due = l.due ∧ (passed r l timeStamp).now = l.now := by
      unfold passed
      split <;> exact ⟨rfl,rfl⟩
    intro j mem
    rw [same.1] at mem
    rw [history,same.2]
    rcases calling.due j mem with done | deleted | ⟨other,i,pending,late,coming⟩
    · exact .inl done
    · exact .inr (.inl deleted)
    · by_cases away : other = timeStamp
      · subst away
        exact .inl (calling.called done pending)
      · refine .inr (.inr ⟨other,i,?_,late,coming.resolve_right away⟩)
        rw [find_drop,if_neg away]
        exact pending

theorem drop_good {id : Nat} (sound : Sound r) (calling : Calling r l left timeStamp id keys)
    (done : ∀ timerIndex ∈ keys, r.find timeStamp timerIndex = none) :
    Sound (r.drop timeStamp) ∧ Walking (r.drop timeStamp) (passed r l timeStamp) left :=
  ⟨drop_sound sound calling done,drop_walking calling done⟩

theorem finish_good (orders : Orders) {l : Locals} (sound : Sound r) (walking : Walking r l []) :
    Sound (finish orders r l).1 ∧ Good (finish orders r l).1 (finish orders r l).2 := by
  have done : Done r l := walking.due.done (fun _ _ _ _ _ => List.not_mem_nil)
  -- The time stamps taken out of the sorted list have no bucket any more.
  have removed : Sound {r with roleTimerSorts:=r.roleTimerSorts.map (fun sorts => l.deleteTimers.foldl List.erase sorts)} := by
    refine ⟨fun timeStamp bucket there => ?_,sound.fresh,sound.away,sound.proper,sound.below,sound.pending,sound.account,sound.complete⟩
    obtain ⟨sorts,have_,mem⟩ := sound.sorted timeStamp bucket there
    refine ⟨l.deleteTimers.foldl List.erase sorts,congrArg (Option.map _) have_,?_⟩
    rw [← List.diff_eq_foldl]
    refine List.mem_diff_of_mem mem (fun gone => ?_)
    exact absurd (there.symm.trans (walking.begun timeStamp gone)) nofun
  unfold finish
  dsimp only
  split
  · split
    next empty =>
      have nothing (timeStamp : Int) : r.bucketAt timeStamp = none := by
        cases there : r.roleTimers with
        | none => exact bucketAt_none there timeStamp
        | some table =>
          rw [there,Option.elim_some,List.isEmpty_iff] at empty
          rw [bucketAt_table there,Table.lookup_no_keys empty]
      have unfound (timeStamp : Int) (j : Nat) : r.find timeStamp j = none := find_no_bucket (nothing timeStamp) j
      refine ended_good ⟨nofun,nofun,sound.away,sound.proper,sound.below,nofun,fun j timeStamp i added => ?_,sound.complete⟩ nofun done
      rcases sound.account j timeStamp i added with called | deleted | pending
      · exact .inl called
      · exact .inr (.inl deleted)
      · exact absurd (pending.symm.trans (unfound timeStamp j)) nofun
    · exact ended_good removed walking.quiet done
  · exact ⟨removed,walking.quiet,done⟩

theorem Walking.early {l : Locals} (walking : Walking r l (timeStamp::left)) (early : l.now < timeStamp) : Walking r l left := by
  refine ⟨walking.quiet,walking.begun,walking.due.mono (fun other _ _ _ late mem => .inl ?_)⟩
  refine (List.mem_cons.mp mem).resolve_left (fun same => ?_)
  omega

theorem Walking.missing {l : Locals} (walking : Walking r l (timeStamp::left)) (missing : r.bucketAt timeStamp = none) : Walking r l left := by
  refine ⟨walking.quiet,walking.begun,walking.due.mono (fun other _ _ pending _ mem => .inl ?_)⟩
  refine (List.mem_cons.mp mem).resolve_left (fun same => ?_)
  rw [find_no_bucket (same ▸ missing)] at pending
  cases pending

-- The traversal of a bucket begins with all its timers to come.
theorem Walking.enter {l : Locals} (orders : Orders) (walking : Walking r l (timeStamp::left)) (here : r.bucketAt timeStamp = some bucket)
    (late : timeStamp ≤ l.now) : Calling r l left timeStamp bucket.id (orders.keys.visit bucket.infos.keys) := by
  obtain ⟨quiet,begun,due⟩ := walking
  refine ⟨late,begun,fun other same => ?_,fun none => ?_,orders.keys.nodup_visit bucket.infos.keys_nodup,?_,?_,?_,?_⟩
  · rw [here] at same
    cases same
    rfl
  · exact absurd (here.symm.trans none) nofun
  · exact fun j _ i pending => quiet timeStamp j i pending
  · intro j i pending
    rw [find_bucket here] at pending
    exact .inl (Table.visit_of_found pending)
  · exact fun other j i _ pending => quiet other j i pending
  · exact due.mono (fun other _ _ _ _ mem => .inl ((List.mem_cons.mp mem).symm))

theorem walk_good (orders : Orders) {l : Locals} (sound : Sound r) (walking : Walking r l left) :
    Sound (walk orders r l left).1 ∧ Good (walk orders r l left).1 (walk orders r l left).2 := by
  induction left generalizing r l with
  | nil => exact finish_good orders sound walking
  | cons timeStamp left ih =>
    unfold walk
    split
    next early => exact ih sound (walking.early early)
    next late =>
      split
      next missing =>
        refine ended_good sound walking.quiet (walking.due.done (fun other j _ pending => ?_))
        rw [find_no_bucket (bucketAt_none missing other)] at pending
        cases pending
      next table there =>
        split
        next missing => exact ih sound (walking.missing ((bucketAt_table there timeStamp).trans missing))
        next bucket found =>
          have here := (bucketAt_table there timeStamp).trans found
          have calling := walking.enter orders here (Int.not_lt.mp late)
          split
          next next_ chosen => exact call_good sound calling (fun j => (find_bucket here j).symm) chosen
          next none =>
            have done : ∀ j ∈ orders.keys.visit bucket.infos.keys, r.find timeStamp j = .none := fun j mem =>
              (find_bucket here j).trans (nextTimer_none none j mem)
            obtain ⟨sound,walking⟩ := drop_good sound calling done
            exact ih sound walking

-- A tick begins with every due timer under a time stamp to come.
theorem run_walking (sound : Sound r) (quiet : Quiet r) (there : r.roleTimers = some table) (list : r.roleTimerSorts = some sorts) :
    Walking r ⟨r.now,∅,[],Role.indexes table (fun timeStamp _ _ => timeStamp ≤ r.now)⟩ sorts := by
  refine ⟨quiet,nofun,fun j mem => ?_⟩
  obtain ⟨timeStamp,bucket,info,found,inside,late⟩ := mem_indexes.mp (show j ∈ Role.indexes table (fun timeStamp _ _ => timeStamp ≤ r.now) from mem)
  have here := (bucketAt_table there timeStamp).trans found
  obtain ⟨other,same,sorted⟩ := sound.sorted timeStamp bucket here
  rw [list] at same
  cases same
  exact .inr (.inr ⟨timeStamp,info,(find_bucket here j).trans inside,of_decide_eq_true late,sorted⟩)

theorem run_good (orders : Orders) (sound : Sound r) (quiet : Quiet r) :
    Sound (run orders r).1 ∧ Good (run orders r).1 (run orders r).2 := by
  unfold run
  split
  next table sorts there list => exact walk_good orders sound (run_walking sound quiet there list)
  · exact ⟨sound,quiet⟩

theorem bucketAt_addTimer_self (r : Role) (afterInterval interval : Int) (isLogoutDelete : Bool) (origin : Option Nat) :
    ∃ bucket, (r.addTimer afterInterval interval isLogoutDelete origin).bucketAt (r.now+afterInterval) = some bucket ∧
      (r.bucketAt (r.now+afterInterval) = none ∧ bucket.id = r.nextBucket ∨
        ∃ old, r.bucketAt (r.now+afterInterval) = some old ∧ bucket.id = old.id) := by
  unfold Role.addTimer
  refine ⟨_,(AList.lookup_insert _),?_⟩
  cases there : r.roleTimers with
  | none => exact .inl ⟨bucketAt_none there _,rfl⟩
  | some table =>
    rw [Option.getD_some,bucketAt_table there]
    cases table.lookup (r.now+afterInterval) with
    | none => exact .inl ⟨rfl,rfl⟩
    | some old => exact .inr ⟨old,rfl,rfl⟩

-- A new timer has an index nobody had before.
theorem addTimer_sound (afterInterval interval : Int) (isLogoutDelete : Bool) (origin : Option Nat) (sound : Sound r) :
    Sound (r.addTimer afterInterval interval isLogoutDelete origin) := by
  have unknown (ts : Int) (i : Info) : .added r.timerIndex ts i ∉ r.history := fun there => Nat.lt_irrefl _ (sound.below _ ts i there)
  obtain ⟨bucket,put,was⟩ := bucketAt_addTimer_self r afterInterval interval isLogoutDelete origin
  have listed (ts : Int) (held : Bucket) (there : (r.addTimer afterInterval interval isLogoutDelete origin).bucketAt ts = some held) :
      ∃ sorts, (r.addTimer afterInterval interval isLogoutDelete origin).roleTimerSorts = some sorts ∧ ts ∈ sorts := by
    refine ⟨_,rfl,(List.mem_insertionSort _).mpr ?_⟩
    exact AList.mem_keys.mp (Table.mem_of_lookup there)
  refine ⟨listed,?_,?_,⟨unknown,sound.proper⟩,?_,?_,?_,?_⟩
  · intro ts held there
    by_cases here : ts = r.now+afterInterval
    · subst here
      rw [put] at there
      cases there
      rcases was with ⟨missing,same⟩ | ⟨old,before,same⟩
      · rw [same]
        refine ⟨Nat.lt_succ_self _,?_⟩
        cases away : r.detached.lookup (r.now+afterInterval,r.nextBucket) with
        | none => exact away
        | some infos => exact absurd (sound.away _ _ infos away) (Nat.lt_irrefl _)
      · obtain ⟨below,loose⟩ := sound.fresh _ old before
        rw [same]
        exact ⟨Nat.lt_succ_of_lt below,loose⟩
    · rw [bucketAt_addTimer_ne _ _ _ _ here] at there
      obtain ⟨below,loose⟩ := sound.fresh ts held there
      exact ⟨Nat.lt_succ_of_lt below,loose⟩
  · exact fun ts b infos there => Nat.lt_succ_of_lt (sound.away ts b infos there)
  · intro j ts i there
    rcases List.mem_cons.mp there with same | before
    · cases same
      exact Nat.lt_succ_self _
    · exact Nat.lt_succ_of_lt (sound.below j ts i before)
  · intro ts j i pending
    rw [find_addTimer] at pending
    split at pending
    next own =>
      obtain ⟨rfl,rfl⟩ := own
      cases pending
      refine ⟨List.mem_cons_self,fun deleted => ?_⟩
      obtain ⟨early,held,there⟩ := sound.proper.known (.inr ((deleted_cons (by nofun)).mp deleted))
      exact unknown early held there
    · obtain ⟨there,kept⟩ := sound.pending ts j i pending
      exact ⟨List.mem_cons_of_mem _ there,fun deleted => kept ((deleted_cons (by nofun)).mp deleted)⟩
  · intro j ts i there
    rw [find_addTimer]
    rcases List.mem_cons.mp there with same | before
    · cases same
      exact .inr (.inr (if_pos ⟨rfl,rfl⟩))
    · rcases sound.account j ts i before with called | deleted | pending
      · exact .inl (called.later _)
      · exact .inr (.inl (List.mem_cons_of_mem _ deleted))
      · have other : ¬(ts = r.now+afterInterval ∧ j = r.timerIndex) := fun both => unknown ts i (both.2 ▸ before)
        rw [if_neg other]
        exact .inr (.inr pending)
  · intro due there j mem
    exact (sound.complete due ((List.mem_cons.mp there).resolve_left nofun) j mem).imp (fun called => called.later _) (List.mem_cons_of_mem _)

theorem Proper.deleted {h : List Mark} {gone : List Nat} (proper : Proper h) (added : ∀ j ∈ gone, ∃ timeStamp info, .added j timeStamp info ∈ h) :
    Proper (gone.map .deleted++h) := by
  induction gone with
  | nil => exact proper
  | cons j rest ih =>
    obtain ⟨timeStamp,info,there⟩ := added j List.mem_cons_self
    exact ⟨⟨timeStamp,info,List.mem_append_right _ there⟩,ih (fun k mem => added k (List.mem_cons_of_mem _ mem))⟩

-- The history of a selective removal: those that go are marked.
structure Removed (r : Role) (gone : Nat → Info → Bool) (after : Role) : Prop where
  marks : ∃ deleted : List Nat, after.history = deleted.map .deleted++r.history ∧
    ∀ j, j ∈ deleted ↔ ∃ timeStamp info, r.find timeStamp j = some info ∧ gone j info = true
  sorts : after.roleTimerSorts = r.roleTimerSorts ∨ ∀ timeStamp, after.bucketAt timeStamp = none
  timerIndex : after.timerIndex = r.timerIndex
  nextBucket : after.nextBucket = r.nextBucket
  detached : after.detached = r.detached

theorem removed (r : Role) (gone : Nat → Info → Bool) : Removed r gone (r.removeTimers gone) := by
  unfold Role.removeTimers
  split
  next missing =>
    refine ⟨⟨[],rfl,fun j => ⟨nofun,?_⟩⟩,.inl rfl,rfl,rfl,rfl⟩
    rintro ⟨timeStamp,info,found,_⟩
    rw [find_no_bucket (bucketAt_none missing timeStamp)] at found
    cases found
  next table there =>
    have marks (j : Nat) : j ∈ Role.indexes table (fun _ => gone) ↔ ∃ timeStamp info, r.find timeStamp j = some info ∧ gone j info = true := by
      rw [mem_indexes]
      constructor
      · rintro ⟨timeStamp,bucket,info,found,inside,goes⟩
        exact ⟨timeStamp,info,(find_bucket ((bucketAt_table there timeStamp).trans found) j).trans inside,goes⟩
      · rintro ⟨timeStamp,info,found,goes⟩
        obtain ⟨bucket,at_,inside⟩ := find_some found
        exact ⟨timeStamp,bucket,info,(bucketAt_table there timeStamp).symm.trans at_,inside,goes⟩
    dsimp only
    split
    · exact ⟨⟨_,rfl,marks⟩,.inr (fun _ => rfl),rfl,rfl,rfl⟩
    · exact ⟨⟨_,rfl,marks⟩,.inl rfl,rfl,rfl,rfl⟩

section removal
variable {gone : Nat → Info → Bool}

theorem Removed.called (removed : Removed r gone after) (j : Nat) : Called after.history j ↔ Called r.history j := by
  obtain ⟨deleted,same,_⟩ := removed.marks
  rw [same]
  refine ⟨fun ⟨now,there⟩ => ?_,fun ⟨now,there⟩ => ⟨now,List.mem_append_right _ there⟩⟩
  rcases List.mem_append.mp there with mark | before
  · obtain ⟨_,_,no⟩ := List.mem_map.mp mark
    cases no
  · exact ⟨now,before⟩

theorem Removed.deleted (removed : Removed r gone after) (j : Nat) :
    Deleted after.history j ↔ Deleted r.history j ∨ ∃ timeStamp info, r.find timeStamp j = some info ∧ gone j info = true := by
  obtain ⟨deleted,same,marks⟩ := removed.marks
  unfold Deleted
  rw [same,List.mem_append,← marks]
  constructor
  · rintro (mark | before)
    · obtain ⟨k,mem,back⟩ := List.mem_map.mp mark
      cases back
      exact .inr mem
    · exact .inl before
  · rintro (before | mem)
    · exact .inr before
    · exact .inl (List.mem_map_of_mem mem)

theorem Removed.added (removed : Removed r gone after) : .added timerIndex timeStamp info ∈ after.history ↔ .added timerIndex timeStamp info ∈ r.history := by
  obtain ⟨deleted,same,_⟩ := removed.marks
  rw [same]
  refine ⟨fun there => ?_,List.mem_append_right _⟩
  rcases List.mem_append.mp there with mark | before
  · obtain ⟨_,_,no⟩ := List.mem_map.mp mark
    cases no
  · exact before

theorem kept_find (found : (r.removeTimers gone).find timeStamp timerIndex = some info) :
    r.find timeStamp timerIndex = some info ∧ gone timerIndex info = false := by
  rw [find_removeTimers] at found
  obtain ⟨before,stays⟩ := Option.filter_eq_some_iff.mp found
  exact ⟨before,by simpa using stays⟩

theorem kept_bucket {bucket : Bucket} (there : (r.removeTimers gone).bucketAt timeStamp = some bucket) :
    ∃ old, r.bucketAt timeStamp = some old ∧ bucket.id = old.id := by
  rw [bucketAt_removeTimers] at there
  obtain ⟨before,_⟩ := Option.filter_eq_some_iff.mp there
  obtain ⟨old,found,rfl⟩ := Option.map_eq_some_iff.mp before
  exact ⟨old,found,rfl⟩

-- A pending timer stays, or it goes and is marked.
theorem find_or_deleted (found : r.find timeStamp timerIndex = some info) :
    (r.removeTimers gone).find timeStamp timerIndex = some info ∨ Deleted (r.removeTimers gone).history timerIndex := by
  cases goes : gone timerIndex info with
  | true => exact .inr (((removed r gone).deleted timerIndex).mpr (.inr ⟨timeStamp,info,found,goes⟩))
  | false =>
    refine .inl ?_
    rw [find_removeTimers,found,Option.filter_some,goes]
    rfl

theorem removeTimers_sound (gone : Nat → Info → Bool) (sound : Sound r) : Sound (r.removeTimers gone) := by
  have took := removed r gone
  refine ⟨?_,?_,?_,?_,?_,?_,?_,?_⟩
  · intro ts bucket there
    rcases took.sorts with same | none
    · obtain ⟨old,before,_⟩ := kept_bucket there
      rw [same]
      exact sound.sorted ts old before
    · exact absurd (there.symm.trans (none ts)) nofun
  · intro ts bucket there
    obtain ⟨old,before,same⟩ := kept_bucket there
    rw [same,took.nextBucket,took.detached]
    exact sound.fresh ts old before
  · rw [took.detached,took.nextBucket]
    exact sound.away
  · obtain ⟨deleted,same,marks⟩ := took.marks
    rw [same]
    refine sound.proper.deleted (fun j mem => ?_)
    obtain ⟨ts,i,found,_⟩ := (marks j).mp mem
    exact ⟨ts,i,(sound.pending ts j i found).1⟩
  · intro j ts i there
    rw [took.timerIndex]
    exact sound.below j ts i (took.added.mp there)
  · intro ts j i pending
    obtain ⟨before,stays⟩ := kept_find pending
    obtain ⟨there,kept⟩ := sound.pending ts j i before
    refine ⟨took.added.mpr there,fun deleted => ?_⟩
    rcases (took.deleted j).mp deleted with old | ⟨late,held,found,goes⟩
    · exact kept old
    · obtain ⟨_,rfl⟩ := sound.proper.once (sound.pending late j held found).1 there
      rw [stays] at goes
      cases goes
  · intro j ts i there
    rcases sound.account j ts i (took.added.mp there) with called | deleted | pending
    · exact .inl ((took.called j).mpr called)
    · exact .inr (.inl ((took.deleted j).mpr (.inl deleted)))
    · exact .inr (find_or_deleted pending).symm
  · intro due there j mem
    obtain ⟨deleted,same,_⟩ := took.marks
    have before : .ended due ∈ r.history := by
      rw [same] at there
      rcases List.mem_append.mp there with mark | before
      · obtain ⟨_,_,no⟩ := List.mem_map.mp mark
        cases no
      · exact before
    exact (sound.complete due before j mem).imp (took.called j).mpr (fun deleted => (took.deleted j).mpr (.inl deleted))

theorem removeTimers_done {l : Locals} (gone : Nat → Info → Bool) (done : Done r l) : Done (r.removeTimers gone) l := fun j mem =>
  (done j mem).imp ((removed r gone).called j).mpr (fun deleted => ((removed r gone).deleted j).mpr (.inl deleted))

theorem removeTimers_quiet (gone : Nat → Info → Bool) (quiet : Quiet r) : Quiet (r.removeTimers gone) := fun ts j i pending called =>
  quiet ts j i (kept_find pending).1 (((removed r gone).called j).mp called)

theorem removeTimers_good (gone : Nat → Info → Bool) (sound : Sound r) (good : Good r tick) : Good (r.removeTimers gone) tick := by
  have took := removed r gone
  rcases tick with _ | (⟨l,left,timeStamp,id,keys,k,info⟩ | ⟨l,info,rest⟩)
  · exact removeTimers_quiet gone good
  · have calling : Calling r l left timeStamp id keys := good
    have none (ts : Int) (missing : r.bucketAt ts = .none) : (r.removeTimers gone).bucketAt ts = .none := by
      rw [bucketAt_removeTimers,missing]
      rfl
    refine ⟨calling.late,fun other mem => none other (calling.begun other mem),?_,?_,calling.distinct,?_,?_,?_,?_⟩
    · intro bucket there
      obtain ⟨old,before,same⟩ := kept_bucket there
      exact same.trans (calling.bucket old before)
    · intro missing
      rw [took.detached]
      cases before : r.bucketAt timeStamp with
      | none => exact calling.gone before
      | some old => rw [← calling.bucket old before]; exact (sound.fresh timeStamp old before).2
    · exact fun j mem i pending called => calling.uncalled j mem i (kept_find pending).1 ((took.called j).mp called)
    · exact fun j i pending => (calling.visited j i (kept_find pending).1).imp_right (took.called j).mpr
    · exact fun other j i away pending called => calling.elsewhere other j i away (kept_find pending).1 ((took.called j).mp called)
    · intro j mem
      rcases calling.due j mem with called | deleted | ⟨other,i,pending,late,coming⟩
      · exact .inl ((took.called j).mpr called)
      · exact .inr (.inl ((took.deleted j).mpr (.inl deleted)))
      · have kept : (r.removeTimers gone).find other j = some i ∨ Deleted (r.removeTimers gone).history j := find_or_deleted pending
        rcases kept with still | deleted
        · exact .inr (.inr ⟨other,i,still,late,coming⟩)
        · exact .inr (.inl deleted)
  · exact ⟨removeTimers_quiet gone good.1,removeTimers_done gone good.2⟩

end removal

section addition
variable {afterInterval interval : Int} {isLogoutDelete : Bool} {origin : Option Nat}

theorem addTimer_called (r : Role) (j : Nat) : Called (r.addTimer afterInterval interval isLogoutDelete origin).history j ↔ Called r.history j :=
  called_cons (by nofun)

theorem addTimer_deleted (r : Role) (j : Nat) : Deleted (r.addTimer afterInterval interval isLogoutDelete origin).history j ↔ Deleted r.history j :=
  deleted_cons (by nofun)

theorem Sound.uncalled_new (sound : Sound r) : ¬Called r.history r.timerIndex := by
  intro called
  obtain ⟨ts,i,there⟩ := sound.proper.known (.inl called)
  exact Nat.lt_irrefl _ (sound.below _ ts i there)

theorem addTimer_uncalled (sound : Sound r) (old : r.find timeStamp timerIndex = some info → ¬Called r.history timerIndex)
    (pending : (r.addTimer afterInterval interval isLogoutDelete origin).find timeStamp timerIndex = some info) :
    ¬Called (r.addTimer afterInterval interval isLogoutDelete origin).history timerIndex := by
  rw [addTimer_called]
  rw [find_addTimer] at pending
  split at pending
  next own =>
    rw [own.2]
    exact sound.uncalled_new
  · exact old pending

theorem addTimer_find (sound : Sound r) (found : r.find timeStamp timerIndex = some info) :
    (r.addTimer afterInterval interval isLogoutDelete origin).find timeStamp timerIndex = some info := by
  rw [find_addTimer,if_neg]
  · exact found
  · rintro ⟨_,rfl⟩
    exact Nat.lt_irrefl _ (sound.below _ _ _ (sound.pending _ _ _ found).1)

theorem addTimer_quiet (sound : Sound r) (quiet : Quiet r) : Quiet (r.addTimer afterInterval interval isLogoutDelete origin) :=
  fun ts j i pending => addTimer_uncalled sound (quiet ts j i) pending

theorem addTimer_done {l : Locals} (done : Done r l) : Done (r.addTimer afterInterval interval isLogoutDelete origin) l := fun j mem =>
  (done j mem).imp (addTimer_called r j).mpr (addTimer_deleted r j).mpr

-- The time stamps a tick has begun and will take away.
def begunBy : Option Tick → List Int
  | some (.calling l _ timeStamp _ _ _ _) => timeStamp::l.deleteTimers
  | _ => []

theorem addTimer_good (sound : Sound r) (good : Good r tick) (apart : r.now+afterInterval ∉ begunBy tick) :
    Good (r.addTimer afterInterval interval isLogoutDelete origin) tick := by
  rcases tick with _ | (⟨l,left,timeStamp,id,keys,k,info⟩ | ⟨l,info,rest⟩)
  · exact addTimer_quiet sound good
  · have calling : Calling r l left timeStamp id keys := good
    obtain ⟨own,early⟩ := not_or.mp (List.mem_cons.not.mp apart)
    have same : (r.addTimer afterInterval interval isLogoutDelete origin).bucketAt timeStamp = r.bucketAt timeStamp :=
      bucketAt_addTimer_ne _ _ _ _ (fun back => own back.symm)
    have here (j : Nat) : (r.addTimer afterInterval interval isLogoutDelete origin).find timeStamp j = r.find timeStamp j := by
      rw [find_addTimer,if_neg (fun both => own both.1.symm)]
    refine ⟨calling.late,fun other mem => ?_,?_,?_,calling.distinct,?_,?_,?_,?_⟩
    · rw [bucketAt_addTimer_ne _ _ _ _ (fun back => early (back ▸ mem))]
      exact calling.begun other mem
    · rw [same]
      exact calling.bucket
    · rw [same]
      exact calling.gone
    · intro j mem i pending
      rw [here] at pending
      rw [addTimer_called]
      exact calling.uncalled j mem i pending
    · intro j i pending
      rw [here] at pending
      rw [addTimer_called]
      exact calling.visited j i pending
    · exact fun other j i away pending => addTimer_uncalled sound (calling.elsewhere other j i away) pending
    · intro j mem
      rcases calling.due j mem with called | deleted | ⟨other,i,pending,rest⟩
      · exact .inl ((addTimer_called r j).mpr called)
      · exact .inr (.inl ((addTimer_deleted r j).mpr deleted))
      · exact .inr (.inr ⟨other,i,addTimer_find sound pending,rest⟩)
  · exact ⟨addTimer_quiet sound good.1,addTimer_done good.2⟩

end addition

theorem addAgain_same (l : Locals) (info : Info) :
    (addAgain l info).now = l.now ∧ (addAgain l info).deleteTimers = l.deleteTimers ∧ (addAgain l info).due = l.due := by
  unfold addAgain
  split <;> exact ⟨rfl,rfl,rfl⟩

-- The locals that are not about the repeated timers are the ones that count.
theorem Calling.addAgain {l : Locals} {id : Nat} (calling : Calling r l left timeStamp id keys) (info : Info) :
    Calling r (addAgain l info) left timeStamp id keys := by
  obtain ⟨now,begun,due⟩ := addAgain_same l info
  refine ⟨now ▸ calling.late,begun ▸ calling.begun,calling.bucket,calling.gone,calling.distinct,calling.uncalled,calling.visited,calling.elsewhere,?_⟩
  unfold Due
  rw [now,due]
  exact calling.due

theorem content_find {l : Locals} {id : Nat} (calling : Calling r l left timeStamp id keys) (timerIndex : Nat) :
    (r.content timeStamp id).lookup timerIndex = r.find timeStamp timerIndex := by
  unfold Role.content
  split
  next bucket there => rw [if_pos (calling.bucket bucket there),find_bucket there]
  next missing =>
    rw [calling.gone missing,find_no_bucket missing]
    rfl

theorem resume_good (orders : Orders) (sound : Sound r) (good : Good r (some tick)) :
    Sound (resume orders r tick).1 ∧ Good (resume orders r tick).1 (resume orders r tick).2 := by
  cases tick with
  | calling l left timeStamp id keys k info =>
    have calling : Calling r (addAgain l info) left timeStamp id keys := Calling.addAgain good info
    unfold resume
    dsimp only
    split
    next found => exact call_good sound calling (content_find calling) found
    next none =>
      have done : ∀ j ∈ keys, r.find timeStamp j = .none := fun j mem => (content_find calling j).symm.trans (nextTimer_none none j mem)
      obtain ⟨sound,walking⟩ := drop_good sound calling done
      exact walk_good orders sound walking
  | adding l info rest =>
    have after := addTimer_sound info.interval info.interval info.isLogoutDelete (some info.origin) sound
    have quiet : Quiet (r.addTimer info.interval info.interval info.isLogoutDelete (some info.origin)) := addTimer_quiet sound good.1
    have done : Done (r.addTimer info.interval info.interval info.isLogoutDelete (some info.origin)) l := addTimer_done good.2
    unfold resume
    dsimp only
    split
    · exact ended_good after quiet done
    · exact ⟨after,quiet,done⟩

-- The clock is not part of what a role keeps.
theorem Sound.later (sound : Sound r) (now : Int) : Sound {r with now:=now} :=
  ⟨sound.sorted,sound.fresh,sound.away,sound.proper,sound.below,sound.pending,sound.account,sound.complete⟩

theorem good_later (good : Good r tick) (now : Int) : Good {r with now:=now} tick := by
  rcases tick with _ | (⟨l,left,timeStamp,id,keys,k,info⟩ | ⟨l,info,rest⟩)
  · exact good
  · have calling : Calling r l left timeStamp id keys := good
    exact ⟨calling.late,calling.begun,calling.bucket,calling.gone,calling.distinct,calling.uncalled,calling.visited,calling.elsewhere,calling.due⟩
  · exact good

end ticks

section service

-- One role: its tables, and the tick that is suspended. runEvery starts the next only when it is over.
structure State where
  role : Role
  tick : Option Tick

inductive Event where
  | clock (passed : Nat)
  -- addTimer goes on after getTimerIndex. A traversal under way may come to the new timer or not.
  | addTimer (afterInterval interval : Int) (isLogoutDelete seen : Bool)
  | deleteTimer (timerIndex : Nat)
  | deleteTimerOnRoleLogout
  | run (orders : Orders)
  | resume (orders : Orders)

def initial (now : Int) : State := ⟨⟨now,none,none,some 0,1,0,∅,[]⟩,none⟩

-- The timer added is in the very table that is traversed.
def joins (r : Role) (timeStamp : Int) (timerIndex : Nat) : Option Tick → Option Tick
  | some (.calling l left at_ id keys k info) =>
    if at_ = timeStamp ∧ (r.bucketAt timeStamp).map Bucket.id = some id then some (.calling l left at_ id (keys++[timerIndex]) k info)
    else some (.calling l left at_ id keys k info)
  | tick => tick

def next (s : State) : Event → State
  | .clock passed => {s with role:={s.role with now:=s.role.now+passed}}
  | .addTimer afterInterval interval isLogoutDelete seen =>
    let role := s.role.addTimer afterInterval interval isLogoutDelete none
    ⟨role,if seen then joins role (s.role.now+afterInterval) s.role.timerIndex s.tick else s.tick⟩
  | .deleteTimer timerIndex => {s with role:=s.role.deleteTimer timerIndex}
  | .deleteTimerOnRoleLogout => {s with role:=s.role.deleteTimerOnRoleLogout}
  | .run orders =>
    match s.tick with
    | some _ => s
    | none => ⟨(run orders s.role).1,(run orders s.role).2⟩
  | .resume orders =>
    match s.tick with
    | none => s
    | some tick => ⟨(resume orders s.role tick).1,(resume orders s.role tick).2⟩

-- No timer is added under a time stamp that the tick under way has begun.
def Allow (s : State) : Event → Prop
  | .addTimer afterInterval _ _ _ => s.role.now+afterInterval ∉ begunBy s.tick
  | _ => True

instance (s : State) : (event : Event) → Decidable (Allow s event)
  | .addTimer afterInterval _ _ _ => inferInstanceAs (Decidable (s.role.now+afterInterval ∉ begunBy s.tick))
  | .clock _ | .deleteTimer _ | .deleteTimerOnRoleLogout | .run _ | .resume _ => isTrue trivial

def Fine (s : State) : Prop := Sound s.role ∧ Good s.role s.tick

def plain : Orders := ⟨.stored,.stored⟩

def second : List Event := [.addTimer 10 0 false false,.addTimer 10 0 false false,.clock 10,.run plain,.resume plain,.resume plain]

end service

end OriginGame.RoleTimerLogic
