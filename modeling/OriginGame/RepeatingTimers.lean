import OriginGame.RoleTimers

namespace OriginGame.RoleTimerLogic
variable {r after : Role} {l : Locals} {timeStamp other : Int} {timerIndex : Nat} {info : Info} {held : List Info}

section rounds

-- The timers a tick has collected, whatever the order.
def collected (l : Locals) : List Info := l.addTimers.keys.flatMap (fun interval => (l.addTimers.lookup interval).getD [])

-- The timers a tick has called and not added again yet.
def heldBy : Option Tick → List Info
  | none => []
  | some (.calling l _ _ _ _ _ info) => collected (addAgain l info)
  | some (.adding _ info rest) => info::rest

-- A timer is there while a tick is to add it again, or while it is pending.
def Present (r : Role) (held : List Info) (origin : Nat) : Prop :=
  origin ∈ held.map Info.origin ∨ ∃ timeStamp timerIndex info, r.find timeStamp timerIndex = some info ∧ info.origin = origin

-- Every repeating timer is pending once at most, under its first index until it is called,
-- and is pending beside the tick that holds it only in the table the tick is going through.
structure Round (r : Role) (held : List Info) : Prop where
  distinct : (held.map Info.origin).Nodup
  again : ∀ info ∈ held, 0 < info.interval ∧ info.isLogoutDelete = true ∧ Called r.history info.origin
  waiting : ∀ timeStamp timerIndex info, r.find timeStamp timerIndex = some info →
    (Called r.history timerIndex ↔ info.origin ∈ held.map Info.origin)
  repeating : ∀ timeStamp timerIndex info, r.find timeStamp timerIndex = some info →
    0 < info.interval ∧ info.isLogoutDelete = true ∧ info.origin < r.timerIndex ∧ (timerIndex = info.origin ∨ Called r.history info.origin)
  once : ∀ early first one late second two, r.find early first = some one → r.find late second = some two → one.origin = two.origin → first = second

theorem Round.perm (round : Round r held) (perm : held.Perm others) : Round r others := by
  have same : (held.map Info.origin).Perm (others.map Info.origin) := perm.map _
  refine ⟨same.nodup_iff.mp round.distinct,fun a mem => round.again a (perm.mem_iff.mpr mem),fun ts j i there => ?_,round.repeating,round.once⟩
  exact (round.waiting ts j i there).trans same.mem_iff

theorem Present.perm (present : Present r held origin) (perm : held.Perm others) : Present r others origin :=
  present.imp_left (perm.map _).mem_iff.mp

-- Collecting one more.
theorem collected_addAgain (l : Locals) (repeats : 0 < info.interval) : (collected (addAgain l info)).Perm (info::collected l) := by
  unfold addAgain collected
  rw [if_pos repeats]
  dsimp only
  rw [AList.keys_insert,List.flatMap_cons,AList.lookup_insert,Option.getD_some]
  have beside : (l.addTimers.keys.erase info.interval).flatMap
      (fun interval => ((l.addTimers.insert info.interval ((l.addTimers.lookup info.interval).getD []++[info])).lookup interval).getD []) =
      (l.addTimers.keys.erase info.interval).flatMap (fun interval => (l.addTimers.lookup interval).getD []) := by
    refine List.flatMap_congr (fun interval mem => ?_)
    rw [AList.lookup_insert_ne (fun same => (List.Nodup.not_mem_erase l.addTimers.keys_nodup) (same ▸ mem))]
  rw [beside,List.append_assoc,List.singleton_append]
  refine List.perm_middle.trans (.cons info ?_)
  by_cases there : info.interval ∈ l.addTimers.keys
  · have all := (List.perm_cons_erase there).symm.flatMap_right (fun interval => (l.addTimers.lookup interval).getD [])
    rwa [List.flatMap_cons] at all
  · rw [List.erase_of_not_mem there,AList.lookup_eq_none.mpr (fun mem => there (AList.mem_keys.mp mem))]
    exact .refl _

-- What finish adds again is what was collected.
theorem collected_visit (orders : Orders) (l : Locals) :
    ((orders.intervals.visit l.addTimers.keys).flatMap (fun interval => (l.addTimers.lookup interval).getD [])).Perm (collected l) :=
  (orders.intervals.perm _).flatMap_right _

-- Rounds only look at what is pending and at what was called.
theorem Round.same (round : Round r had) (calls : ∀ j, Called after.history j ↔ Called r.history j)
    (finds : ∀ ts j i, after.find ts j = some i → r.find ts j = some i) (index : r.timerIndex ≤ after.timerIndex) : Round after had := by
  refine ⟨round.distinct,fun a mem => ?_,fun ts j i there => ?_,fun ts j i there => ?_,fun early first one late second two here there => ?_⟩
  · obtain ⟨repeats,leaves,called⟩ := round.again a mem
    exact ⟨repeats,leaves,(calls _).mpr called⟩
  · exact (calls j).trans (round.waiting ts j i (finds ts j i there))
  · obtain ⟨repeats,leaves,below,own⟩ := round.repeating ts j i (finds ts j i there)
    exact ⟨repeats,leaves,Nat.lt_of_lt_of_le below index,own.imp_right (calls _).mpr⟩
  · exact round.once early first one late second two (finds early first one here) (finds late second two there)

-- The time stamps of a tick are behind the clock.
def Behind (now : Int) : Option Tick → Prop
  | some (.calling l _ _ _ _ _ _) => l.now ≤ now ∧ ∀ timeStamp ∈ l.deleteTimers, timeStamp ≤ l.now
  | _ => True

structure Going (r : Role) (l : Locals) : Prop where
  round : Round r (collected l)
  now : l.now ≤ r.now
  begun : ∀ timeStamp ∈ l.deleteTimers, timeStamp ≤ l.now
  table : r.roleTimers.isSome

-- What a stretch of a tick leaves, from where it held these timers to where it is suspended.
structure Turned (r : Role) (had : List Info) (result : Role×Option Tick) : Prop where
  round : Round result.1 (heldBy result.2)
  behind : Behind result.1.now result.2
  table : result.2.isSome → result.1.roleTimers.isSome
  session : result.2.isSome → result.1.roleRunTimerId = r.roleRunTimerId
  present : ∀ origin, Present r had origin → Present result.1 (heldBy result.2) origin

theorem call_turned {id : Nat} {infos : Table Nat Info} (sound : Sound r) (going : Going r l) (calling : Calling r l left timeStamp id keys)
    (here : ∀ timerIndex, infos.lookup timerIndex = r.find timeStamp timerIndex) (found : nextTimer infos keys = some (k,info,rest)) :
    Turned r (collected l) (call r l left timeStamp id (k,info,rest)) := by
  obtain ⟨there,skipped,split,_⟩ := nextTimer_some found
  rw [here] at there
  have quiet : ¬Called r.history k := calling.uncalled k (split ▸ List.mem_append_right _ List.mem_cons_self) info there
  obtain ⟨round,now,begun,table⟩ := going
  obtain ⟨repeats,leaves,below,own⟩ := round.repeating timeStamp k info there
  have perm := collected_addAgain l repeats
  have still (j : Nat) (differs : k ≠ j) : Called (.called k l.now::r.history) j ↔ Called r.history j :=
    called_cons (fun _ back => differs (Mark.called.inj back).1)
  have unheld : info.origin ∉ (collected l).map Info.origin := fun mem => quiet ((round.waiting timeStamp k info there).mpr mem)
  have onward : Round {r with history:=.called k l.now::r.history} (info::collected l) := by
    refine ⟨List.nodup_cons.mpr ⟨unheld,round.distinct⟩,?_,?_,?_,round.once⟩
    · intro a mem
      rcases List.mem_cons.mp mem with rfl | before
      · refine ⟨repeats,leaves,?_⟩
        rcases own with same | called
        · exact ⟨l.now,same ▸ List.mem_cons_self⟩
        · exact called.later _
      · obtain ⟨repeats,leaves,called⟩ := round.again a before
        exact ⟨repeats,leaves,called.later _⟩
    · intro ts j i pending
      by_cases same : k = j
      · subst same
        have one : info = i := (sound.proper.once (sound.pending _ _ _ there).1 (sound.pending _ _ _ pending).1).2
        exact iff_of_true ⟨l.now,List.mem_cons_self⟩ (one ▸ List.mem_cons_self)
      · have apart : i.origin ≠ info.origin := fun back => same (round.once _ _ _ _ _ _ there pending back.symm)
        rw [still j same,round.waiting ts j i pending,List.map_cons,List.mem_cons,or_iff_right apart]
    · intro ts j i pending
      obtain ⟨repeats,leaves,below,own⟩ := round.repeating ts j i pending
      exact ⟨repeats,leaves,below,own.imp_right (fun called => called.later _)⟩
  refine ⟨onward.perm perm.symm,⟨now,begun⟩,fun _ => table,fun _ => rfl,fun origin present => ?_⟩
  have more : Present r (info::collected l) origin := present.imp_left (List.mem_cons_of_mem _)
  exact more.perm perm.symm

theorem drop_same (r : Role) (timeStamp : Int) : (r.drop timeStamp).now = r.now ∧ (r.drop timeStamp).roleRunTimerId = r.roleRunTimerId ∧
    (r.drop timeStamp).roleTimers.isSome = r.roleTimers.isSome := by
  unfold Role.drop
  split
  · exact ⟨rfl,rfl,rfl⟩
  next table there =>
    split
    · exact ⟨rfl,rfl,rfl⟩
    · exact ⟨rfl,rfl,(congrArg Option.isSome there).symm⟩

theorem collected_passed (r : Role) (l : Locals) (timeStamp : Int) : collected (passed r l timeStamp) = collected l := by
  unfold passed
  split <;> rfl

-- The timers under the time stamp that is dropped are held by the tick.
theorem drop_going (going : Going r l) (late : timeStamp ≤ l.now) (called : ∀ j i, r.find timeStamp j = some i → Called r.history j) :
    Going (r.drop timeStamp) (passed r l timeStamp) ∧
      ∀ origin, Present r (collected l) origin → Present (r.drop timeStamp) (collected (passed r l timeStamp)) origin := by
  obtain ⟨round,now,begun,table⟩ := going
  obtain ⟨history,_,index,_⟩ := drop_rest r timeStamp
  obtain ⟨clock,_,some⟩ := drop_same r timeStamp
  have before (ts : Int) (j : Nat) (i : Info) (there : (r.drop timeStamp).find ts j = .some i) : r.find ts j = .some i := by
    rw [find_drop] at there
    split at there
    · cases there
    · exact there
  have same : (passed r l timeStamp).now = l.now := by
    unfold passed
    split <;> rfl
  rw [collected_passed]
  refine ⟨⟨?_,?_,fun ts mem => ?_,some.trans table⟩,fun origin present => ?_⟩
  · rw [collected_passed]
    exact round.same (fun j => by rw [history]) before (Nat.le_of_eq index.symm)
  · rw [same,clock]
    exact now
  · rw [same]
    unfold passed at mem
    split at mem
    · rcases List.mem_append.mp mem with early | own
      · exact begun ts early
      · exact List.mem_singleton.mp own ▸ late
    · exact begun ts mem
  · rcases present with mem | ⟨ts,j,i,there,own⟩
    · exact .inl mem
    · by_cases here : ts = timeStamp
      · subst here
        exact .inl (own ▸ (round.waiting ts j i there).mp (called j i there))
      · refine .inr ⟨ts,j,i,?_,own⟩
        rw [find_drop,if_neg here]
        exact there

theorem Turned.after_drop (turned : Turned (r.drop timeStamp) (collected (passed r l timeStamp)) result)
    (kept : ∀ origin, Present r (collected l) origin → Present (r.drop timeStamp) (collected (passed r l timeStamp)) origin) :
    Turned r (collected l) result :=
  ⟨turned.round,turned.behind,turned.table,fun there => (turned.session there).trans (drop_same r timeStamp).2.1,
    fun origin present => turned.present origin (kept origin present)⟩

theorem ended_called (r : Role) (l : Locals) (j : Nat) : Called (ended r l).1.history j ↔ Called r.history j := called_cons (by nofun)

theorem finish_turned (orders : Orders) (going : Going r l) : Turned r (collected l) (finish orders r l) := by
  obtain ⟨round,_,_,table⟩ := going
  have perm := collected_visit orders l
  unfold finish
  dsimp only
  split
  next nothing =>
    rw [nothing] at perm
    have none := round.perm perm.symm
    have pending (origin : Nat) (present : Present r (collected l) origin) : ∃ ts j i, r.find ts j = some i ∧ i.origin = origin :=
      (present.perm perm.symm).resolve_left List.not_mem_nil
    split
    next empty =>
      have unfound (ts : Int) (j : Nat) : r.find ts j = .none := by
        refine find_no_bucket ?_ j
        cases there : r.roleTimers with
        | none => exact bucketAt_none there ts
        | some table =>
          rw [there,Option.elim_some,List.isEmpty_iff] at empty
          rw [bucketAt_table there,Table.lookup_no_keys empty]
      refine ⟨none.same (fun j => called_cons (by nofun)) nofun (Nat.le_refl _),trivial,nofun,nofun,fun origin present => ?_⟩
      obtain ⟨ts,j,i,there,_⟩ := pending origin present
      rw [unfound] at there
      cases there
    · exact ⟨none.same (fun j => called_cons (by nofun)) (fun _ _ _ => id) (Nat.le_refl _),trivial,nofun,nofun,fun origin present => .inr (pending origin present)⟩
  next a rest more =>
    rw [more] at perm
    refine ⟨(round.perm perm.symm).same (fun _ => .rfl) (fun _ _ _ => id) (Nat.le_refl _),trivial,fun _ => table,fun _ => rfl,fun origin present => ?_⟩
    exact present.perm perm.symm

theorem walk_turned (orders : Orders) (sound : Sound r) (walking : Walking r l left) (going : Going r l) :
    Turned r (collected l) (walk orders r l left) := by
  induction left generalizing r l with
  | nil => exact finish_turned orders going
  | cons timeStamp left ih =>
    unfold walk
    split
    next early => exact ih sound (walking.early early) going
    next late =>
      split
      next missing => exact absurd (missing ▸ going.table) nofun
      next table there =>
        split
        next missing => exact ih sound (walking.missing ((bucketAt_table there timeStamp).trans missing)) going
        next bucket found =>
          have here := (bucketAt_table there timeStamp).trans found
          have calling := walking.enter orders here (Int.not_lt.mp late)
          split
          next next_ chosen => exact call_turned sound going calling (fun j => (find_bucket here j).symm) chosen
          next none =>
            have done : ∀ j ∈ orders.keys.visit bucket.infos.keys, r.find timeStamp j = .none := fun j mem =>
              (find_bucket here j).trans (nextTimer_none none j mem)
            obtain ⟨onward,kept⟩ := drop_going going calling.late (fun _ _ => calling.called done)
            obtain ⟨sound,walking⟩ := drop_good sound calling done
            exact (ih sound walking onward).after_drop kept

section addition
variable {afterInterval interval : Int} {isLogoutDelete : Bool} {origin : Option Nat}

-- A timer that nobody holds and that is not pending is added, under its own index or again.
theorem Round.addTimer (round : Round r had) (sound : Sound r) (repeats : 0 < interval) (leaves : isLogoutDelete = true)
    (own : origin = none ∨ ∃ first, origin = some first ∧ Called r.history first) (unheld : origin.getD r.timerIndex ∉ had.map Info.origin)
    (unpending : ∀ ts j i, r.find ts j = some i → i.origin ≠ origin.getD r.timerIndex) :
    Round (r.addTimer afterInterval interval isLogoutDelete origin) had := by
  have below : origin.getD r.timerIndex < r.timerIndex+1 := by
    rcases own with rfl | ⟨first,rfl,called⟩
    · exact Nat.lt_succ_self _
    · obtain ⟨ts,i,there⟩ := sound.proper.known (.inl called)
      exact Nat.lt_succ_of_lt (sound.below first ts i there)
  refine ⟨round.distinct,fun a mem => ?_,fun ts j i there => ?_,fun ts j i there => ?_,fun early first one late second two here there same => ?_⟩
  · obtain ⟨repeats,leaves,called⟩ := round.again a mem
    exact ⟨repeats,leaves,(addTimer_called r _).mpr called⟩
  · rw [addTimer_called]
    rw [find_addTimer] at there
    split at there
    next mine =>
      cases there
      exact iff_of_false (mine.2 ▸ sound.uncalled_new) unheld
    · exact round.waiting ts j i there
  · rw [addTimer_called]
    rw [find_addTimer] at there
    split at there
    next mine =>
      cases there
      refine ⟨repeats,leaves,below,?_⟩
      rcases own with rfl | ⟨first,rfl,called⟩
      · exact .inl mine.2
      · exact .inr called
    · obtain ⟨repeats,leaves,known,own⟩ := round.repeating ts j i there
      exact ⟨repeats,leaves,Nat.lt_succ_of_lt known,own⟩
  · rw [find_addTimer] at here there
    split at here
    next mine =>
      cases here
      split at there
      next too => exact mine.2.trans too.2.symm
      · exact absurd same.symm (unpending late second two there)
    · split at there
      next mine =>
        cases there
        exact absurd same (unpending early first one here)
      · exact round.once early first one late second two here there same

theorem Present.addTimer (present : Present r had first) (sound : Sound r) : Present (r.addTimer afterInterval interval isLogoutDelete origin) had first := by
  refine present.imp_right ?_
  rintro ⟨ts,j,i,there,same⟩
  exact ⟨ts,j,i,addTimer_find sound there,same⟩

theorem addTimer_present (r : Role) (had : List Info) : Present (r.addTimer afterInterval interval isLogoutDelete origin) had (origin.getD r.timerIndex) := by
  refine .inr ⟨r.now+afterInterval,r.timerIndex,⟨interval,isLogoutDelete,origin.getD r.timerIndex⟩,?_,rfl⟩
  rw [find_addTimer,if_pos ⟨rfl,rfl⟩]

-- Adding again what the tick held.
theorem adding_turned (sound : Sound r) (quiet : Quiet r) (round : Round r (info::rest)) :
    Round (r.addTimer info.interval info.interval info.isLogoutDelete (some info.origin)) rest ∧ ∀ first, Present r (info::rest) first →
      Present (r.addTimer info.interval info.interval info.isLogoutDelete (some info.origin)) rest first := by
  obtain ⟨unheld,distinct⟩ := List.nodup_cons.mp round.distinct
  obtain ⟨repeats,leaves,called⟩ := round.again info List.mem_cons_self
  have free (ts : Int) (j : Nat) (i : Info) (there : r.find ts j = some i) : i.origin ∉ (info::rest).map Info.origin := fun mem =>
    quiet ts j i there ((round.waiting ts j i there).mpr mem)
  have less : Round r rest := by
    refine ⟨distinct,fun a mem => round.again a (List.mem_cons_of_mem _ mem),fun ts j i there => ?_,round.repeating,round.once⟩
    exact iff_of_false (quiet ts j i there) (fun mem => free ts j i there (List.mem_cons_of_mem _ mem))
  refine ⟨less.addTimer sound repeats leaves (.inr ⟨_,rfl,called⟩) unheld (fun ts j i there same => ?_),fun first present => ?_⟩
  · exact free ts j i there (same ▸ List.mem_cons_self)
  · rcases present with mem | pending
    · rcases List.mem_cons.mp mem with rfl | later
      · exact addTimer_present r rest
      · exact .inl later
    · exact (show Present r rest first from .inr pending).addTimer sound

end addition

theorem run_turned (orders : Orders) (sound : Sound r) (quiet : Quiet r) (round : Round r []) : Turned r [] (run orders r) := by
  unfold run
  split
  next table sorts there list =>
    exact walk_turned orders sound (run_walking sound quiet there list) ⟨round,Int.le_refl _,nofun,by rw [there]; rfl⟩
  · exact ⟨round,trivial,nofun,nofun,fun _ => id⟩

theorem resume_turned (orders : Orders) (sound : Sound r) (good : Good r (some tick)) (round : Round r (heldBy (some tick))) (behind : Behind r.now (some tick))
    (table : r.roleTimers.isSome) : Turned r (heldBy (some tick)) (resume orders r tick) := by
  cases tick with
  | calling l left timeStamp id keys k info =>
    have calling : Calling r (addAgain l info) left timeStamp id keys := Calling.addAgain good info
    obtain ⟨now,begun,_⟩ := addAgain_same l info
    have going : Going r (addAgain l info) := ⟨round,now ▸ behind.1,by rw [now,begun]; exact behind.2,table⟩
    unfold resume
    dsimp only
    split
    next found => exact call_turned sound going calling (content_find calling) found
    next none =>
      have done : ∀ j ∈ keys, r.find timeStamp j = .none := fun j mem => (content_find calling j).symm.trans (nextTimer_none none j mem)
      obtain ⟨onward,kept⟩ := drop_going going calling.late (fun _ _ => calling.called done)
      obtain ⟨sound,walking⟩ := drop_good sound calling done
      exact (walk_turned orders sound walking onward).after_drop kept
  | adding l info rest =>
    obtain ⟨onward,kept⟩ := adding_turned sound good.1 round
    cases rest with
    | nil => exact ⟨onward.same (ended_called _ l) (fun _ _ _ => id) (Nat.le_refl _),trivial,nofun,nofun,kept⟩
    | cons => exact ⟨onward,trivial,fun _ => rfl,fun _ => rfl,kept⟩

end rounds

end OriginGame.RoleTimerLogic
