import OriginGame.Constructions

namespace OriginGame.BuildingLogic.Role
variable {data : LevelData} {first s : Role} {queueIndex buildingIndex timerId c : Nat} {queue : QueueInfo} {construction : Construction}

-- A role with idle queues, no building under construction and nothing begun yet.
structure Fresh (s : Role) : Prop where
  begun : 0 ≤ s.now
  idle : ∀ queueIndex queue, s.works.buildQueue.lookup queueIndex = some queue → queue.finishTime < 0 ∧ queue.timerId = none
  standing : ∀ buildingIndex building, s.works.buildings.lookup buildingIndex = some building → building.finishTime ≤ 0
  timers : s.works.timers.keys = []
  calls : s.works.calls.keys = []
  speeding : s.works.speeding = none
  constructions : s.works.constructions = []
  ends : s.works.ends = []

-- No request, callback or speed-up is under way.
structure Quiet (s : Role) : Prop where
  asked : s.asked = []
  calls : s.works.calls.keys = []
  speeding : s.works.speeding = none

-- It was ended once, the way it may, and no queue is busy with it.
def Over (w : Works) (c : Nat) (construction : Construction) : Prop :=
  (∃ e, w.endsOf c = [e] ∧ e.Fits construction) ∧ ∀ queueIndex queue, w.Busy queueIndex queue → queue.construction ≠ some c

-- Its queue is busy with its building, which has the level it had.
structure Underway (s : Role) (c : Nat) (construction : Construction) (queue : QueueInfo) : Prop where
  busy : s.works.Busy construction.queueIndex queue
  carried : queue.construction = some c
  building : queue.buildingIndex = construction.buildingIndex
  under : s.works.endsOf c = []
  level : ∃ building, s.works.buildings.lookup construction.buildingIndex = some building ∧ building.level = construction.level
  timer : Quiet s → ∃ timerId ∈ queue.timerId, s.works.timers.lookup timerId = some ⟨queue.finishTime,construction.buildingIndex,construction.queueIndex⟩

structure Lifecycle (s : Role) : Prop where
  alone : ∀ first second queue other, s.works.Busy first queue → s.works.Busy second other → queue.buildingIndex = other.buildingIndex → first = second
  named : ∀ buildingIndex, (∃ building, s.works.buildings.lookup buildingIndex = some building ∧ 0 < building.finishTime) ↔
    ∃ queueIndex queue, s.works.Busy queueIndex queue ∧ queue.buildingIndex = buildingIndex
  lasts : ∀ queueIndex queue, s.works.Busy queueIndex queue → queue.expiredTime = -1 ∨ queue.firstFinishTime ≤ queue.expiredTime
  ended : ∀ (c : Nat) construction, s.works.constructions[c]? = some construction → Over s.works c construction ∨ ∃ queue, Underway s c construction queue
  begun : ∀ e ∈ s.works.ends, ∃ c < s.works.constructions.length, e.1 = some c

theorem Fresh.sound (fresh : Fresh first) : first.Sound data := by
  obtain ⟨begun,idle,standing,timers,calls,speeding,constructions,ends⟩ := fresh
  have free {j : Nat} {other : QueueInfo} (busy : first.works.Busy j other) : False := by
    have := (idle j other busy.1).1
    have := busy.2
    omega
  have unset {j id : Nat} {other : QueueInfo} (found : first.works.buildQueue.lookup j = some other) (own : other.timerId = some id) : False := by
    rw [(idle j other found).2] at own
    cases own
  refine ⟨⟨⟨?_,?_,?_,?_,?_,?_,?_⟩,?_,?_,?_,?_,?_⟩,begun,by rw [speeding]; exact fun _ held => absurd held (Option.not_mem_none _)⟩
  · exact fun j other id found own => (unset found own).elim
  · exact fun _ _ _ _ _ found _ own _ => (unset found own).elim
  · intro id mem
    exact absurd (AList.mem_keys.mp mem) (by rw [timers]; exact List.not_mem_nil)
  · intro id mem
    exact absurd (AList.mem_keys.mp mem) (by rw [calls]; exact List.not_mem_nil)
  · intro id mem
    exact absurd (AList.mem_keys.mp mem) (by rw [timers]; exact List.not_mem_nil)
  · exact fun j other id found own => (unset found own).elim
  · rw [speeding]
    exact fun _ held => absurd held (Option.not_mem_none _)
  · exact fun _ _ busy => (free busy).elim
  · intro b building found raising
    exact absurd (standing b building found) (by omega)
  · exact fun _ _ _ _ busy => (free busy).elim
  · intro d construction at_
    rw [constructions] at at_
    cases at_
  · rw [ends]
    exact nofun

theorem Sound.lifecycle (sound : s.Sound data) : Lifecycle s := by
  obtain ⟨timed,occupied,named,apart,closed,ends⟩ := sound.works
  refine ⟨apart,?_,?_,?_,ends⟩
  · intro b
    constructor
    · rintro ⟨building,found,raising⟩
      exact named b building found raising
    · rintro ⟨j,queue,busy,rfl⟩
      exact sound.works.raising busy
  · intro j queue busy
    obtain ⟨building,d,id,o⟩ := occupied j queue busy
    exact o.lasts
  · intro d construction at_
    rcases closed d construction at_ with ⟨queue,busy,own⟩ | ⟨e,once,fits⟩
    · obtain ⟨building,d',id,o⟩ := occupied _ queue busy
      obtain rfl : d' = d := Option.some.inj (o.carried.symm.trans own)
      have same := Option.some.inj (o.begun.symm.trans at_)
      have its : queue.buildingIndex = construction.buildingIndex := congrArg Construction.buildingIndex same
      refine .inr ⟨queue,busy,own,its,o.under,⟨building,by rw [← its]; exact o.found,congrArg Construction.level same⟩,fun quiet => ⟨id,o.timer,?_⟩⟩
      rw [← its]
      rcases o.served with timer | ⟨time,call⟩ | ⟨speedUp,mem,_⟩
      · exact timer
      · rw [Table.lookup_no_keys quiet.calls] at call
        cases call
      · rw [quiet.speeding] at mem
        cases mem
    · refine .inl ⟨⟨e,once,fits⟩,fun j queue busy own => ?_⟩
      obtain ⟨building,d',id,o⟩ := occupied j queue busy
      obtain rfl : d' = d := Option.some.inj (o.carried.symm.trans own)
      cases once.symm.trans o.under

-- What has to happen some time: the clock goes on, a timer that stands fires or is deleted, and
-- a callback and a speed-up get to their next step.
structure Fair (run : Endless (Guarded (fun s happening after => after = s.turn data happening) (Kept data)) first) : Prop where
  clock : ∀ time, ∃ n, time ≤ (run.state n).now
  timers : ∀ n timerId, timerId ∈ (run.state n).works.timers → ∃ m, n ≤ m ∧ timerId ∉ (run.state m).works.timers
  calls : ∀ n timerId, timerId ∈ (run.state n).works.calls → ∃ m, n ≤ m ∧ timerId ∉ (run.state m).works.calls
  speeding : ∀ n speedUp, (run.state n).works.speeding = some speedUp → ∃ m, n ≤ m ∧ (run.state m).works.speeding ≠ some speedUp

section endless
variable {run : Endless (Guarded (fun s happening after => after = s.turn data happening) (Kept data)) first} {from_ n m : Nat}

theorem run_sound (fresh : Fresh first) (n : Nat) : (run.state n).Sound data :=
  run.invariant (fun s => s.Sound data) (fun s happening after sound step => by rw [step.1]; exact (turn_sound sound happening step.2).1) fresh.sound n

theorem run_turned (fresh : Fresh first) (n : Nat) : Turned (run.state n) (run.state (n+1)) (run.label n) := by
  rw [(run.next n).1]
  exact (turn_sound (run_sound fresh n) _ (run.next n).2).2

theorem now_later (fresh : Fresh first) (later : n ≤ m) : (run.state n).now ≤ (run.state m).now :=
  stays (fun m => (run.state n).now ≤ (run.state m).now) (fun k _ ih => Int.le_trans ih (run_turned fresh k).now) (Int.le_refl _) later

theorem begun_later (fresh : Fresh first) (at_ : (run.state n).works.constructions[c]? = some construction) (later : n ≤ m) :
    (run.state m).works.constructions[c]? = some construction := by
  refine stays (fun m => (run.state m).works.constructions[c]? = some construction) (fun k _ ih => ?_) at_ later
  obtain ⟨more,same⟩ := (run_turned fresh k).works.constructions
  rw [← same,List.getElem?_append_left (List.getElem?_eq_some_iff.mp ih).1]
  exact ih

-- A construction that has begun and is never ended.
structure Stuck (run : Endless (Guarded (fun s happening after => after = s.turn data happening) (Kept data)) first)
    (n c : Nat) (construction : Construction) : Prop where
  begun : (run.state n).works.constructions[c]? = some construction
  never : ∀ k, n ≤ k → (run.state k).works.endsOf c = []

theorem Stuck.later (stuck : Stuck run n c construction) (fresh : Fresh first) (later : n ≤ m) : Stuck run m c construction :=
  ⟨begun_later fresh stuck.begun later,fun k after => stuck.never k (Nat.le_trans later after)⟩

theorem Stuck.underway (stuck : Stuck run n c construction) (fresh : Fresh first) : ∃ queue, Underway (run.state n) c construction queue := by
  rcases (run_sound fresh n).lifecycle.ended c construction stuck.begun with ⟨⟨e,once,_⟩,_⟩ | under
  · cases once.symm.trans (stuck.never n (Nat.le_refl _))
  · exact under

-- No body frees its queue, then.
theorem Stuck.busy (stuck : Stuck run n c construction) (fresh : Fresh first) : ∃ queue, (run.state (n+1)).works.Busy construction.queueIndex queue := by
  obtain ⟨queue,under⟩ := (stuck.later fresh (Nat.le_succ n)).underway fresh
  exact ⟨queue,under.busy⟩

-- A callback that is due for what a queue is busy with frees the queue.
theorem raises {w : Works} {now less : Int} (sound : Works.Sound data w) (busy : w.Busy queueIndex queue)
    (due : w.Due now less queue.buildingIndex queueIndex) (other : QueueInfo) :
    ¬ (w.upGradeBuildCallBackImpl data now less queue.buildingIndex queueIndex).Busy queueIndex other := by
  rcases Works.upGradeBuildCallBackImpl_cases sound due with ⟨_,none⟩ | ⟨_,_,_,_,_,_,released⟩
  · obtain ⟨building,found,raising⟩ := sound.raising busy
    exact absurd (none building found) (by omega)
  · exact fun still => (released.busy still).1 rfl

-- So no callback of a timer ever comes for it,
theorem Stuck.no_call (stuck : Stuck run n c construction) (fresh : Fresh first) (fair : Fair run) (time : Int) :
    (run.state n).works.calls.lookup timerId ≠ some ⟨time,construction.buildingIndex,construction.queueIndex⟩ := by
  intro call
  obtain ⟨m,after,gone⟩ := fair.calls n timerId (Table.mem_of_lookup call)
  obtain ⟨k,later,there,over_⟩ := leaves (fun k => (run.state k).works.calls.lookup timerId = some ⟨time,construction.buildingIndex,construction.queueIndex⟩)
    call ⟨m,after,fun there => gone (Table.mem_of_lookup there)⟩
  have does := ((run_turned fresh k).calls timerId _ there).resolve_left over_
  have here := stuck.later fresh later
  obtain ⟨queue,under⟩ := here.underway fresh
  obtain ⟨other,busy⟩ := here.busy fresh
  have kept := (run.next k).2
  rw [(run.next k).1,does] at busy
  rw [does] at kept
  change (Works.upGradeBuildCallBack data _ timerId _).Busy _ _ at busy
  unfold Works.upGradeBuildCallBack at busy
  rw [there] at busy
  have due := kept _ there
  rw [← under.building] at due busy
  exact raises (run_sound fresh k).works under.busy due other busy

-- and none of a speed-up.
theorem Stuck.no_callBack (stuck : Stuck run n c construction) (fresh : Fresh first) (fair : Fair run) (sec : Int) :
    (run.state n).works.speeding ≠ some (.upGradeBuildCallBack construction.queueIndex sec construction.buildingIndex) := by
  intro call
  obtain ⟨k,later,there,over_⟩ := leaves
    (fun k => (run.state k).works.speeding = some (.upGradeBuildCallBack construction.queueIndex sec construction.buildingIndex))
    call (fair.speeding n _ call)
  have does := ((run_turned fresh k).speeding _ there).resolve_left over_
  have here := stuck.later fresh later
  obtain ⟨queue,under⟩ := here.underway fresh
  obtain ⟨other,busy⟩ := here.busy fresh
  have kept := (run.next k).2
  rw [(run.next k).1,does] at busy
  rw [does] at kept
  change (Works.speedOn data _ _).Busy _ _ at busy
  unfold Works.speedOn at busy
  rw [there] at busy
  have due := kept _ there
  change Works.Due _ _ _ _ _ at due
  rw [← under.building] at due busy
  exact raises (run_sound fresh k).works under.busy due other busy

-- Its queue is set nearer at most, and not at all once its time has come.
theorem Stuck.nearer (stuck : Stuck run n c construction) (fresh : Fresh first) (under : Underway (run.state n) c construction queue) :
    ∃ next, Underway (run.state (n+1)) c construction next ∧ (next = queue ∨ (run.state n).now < queue.finishTime ∧ next.finishTime ≤ queue.finishTime) := by
  obtain ⟨next,there⟩ := (stuck.later fresh (Nat.le_succ n)).underway fresh
  refine ⟨next,there,?_⟩
  obtain ⟨same_,found,change_⟩ := (run_turned fresh n).works.queue _ _ under.busy
  cases found.symm.trans there.busy.1
  rcases change_ with same | free | ⟨ahead,_,speedUp,mem,_,less⟩
  · exact .inl same
  · exact absurd there.busy.2 (by omega)
  · have := (run_sound fresh n).shortens speedUp mem
    exact .inr ⟨ahead,by omega⟩

theorem Stuck.due (stuck : Stuck run n c construction) (fresh : Fresh first) (fair : Fair run) :
    ∃ m queue, n ≤ m ∧ ∀ k, m ≤ k → Underway (run.state k) c construction queue ∧ queue.finishTime ≤ (run.state k).now := by
  obtain ⟨queue,under⟩ := stuck.underway fresh
  obtain ⟨m,reached⟩ := fair.clock queue.finishTime
  have sooner (k : Nat) (later : n ≤ k) : ∃ next, Underway (run.state k) c construction next ∧ next.finishTime ≤ queue.finishTime := by
    refine stays (fun k => ∃ next, Underway (run.state k) c construction next ∧ next.finishTime ≤ queue.finishTime) ?_ ⟨queue,under,Int.le_refl _⟩ later
    rintro k after ⟨next,there,less⟩
    obtain ⟨last,under,same | ⟨_,nearer⟩⟩ := (stuck.later fresh after).nearer fresh there
    · exact ⟨last,under,by rw [same]; exact less⟩
    · exact ⟨last,under,Int.le_trans nearer less⟩
  obtain ⟨last,there,less⟩ := sooner (max n m) (Nat.le_max_left _ _)
  refine ⟨max n m,last,Nat.le_max_left _ _,fun k later => ?_⟩
  refine stays (fun k => Underway (run.state k) c construction last ∧ last.finishTime ≤ (run.state k).now) ?_
    ⟨there,Int.le_trans less (Int.le_trans reached (now_later fresh (Nat.le_max_right _ _)))⟩ later
  rintro k after ⟨here,past⟩
  have goes : (run.state k).now ≤ (run.state (k+1)).now := now_later fresh (Nat.le_succ k)
  obtain ⟨next,under,same | ⟨ahead,_⟩⟩ := (stuck.later fresh (Nat.le_trans (Nat.le_max_left _ _) after)).nearer fresh here
  · exact ⟨by rw [← same]; exact under,Int.le_trans past goes⟩
  · omega

-- A timer id that is out of the table stays out of it.
theorem timer_gone (fresh : Fresh first) (known : timerId < (run.state n).works.timerIndex) (gone : timerId ∉ (run.state n).works.timers)
    (later : n ≤ m) : timerId ∉ (run.state m).works.timers := by
  refine (stays (fun m => timerId < (run.state m).works.timerIndex ∧ timerId ∉ (run.state m).works.timers) ?_ ⟨known,gone⟩ later).2
  rintro k _ ⟨less,out⟩
  have turned : Turned (run.state k) (run.state (k+1)) (run.label k) := run_turned fresh k
  refine ⟨Nat.lt_of_lt_of_le less turned.works.timerIndex,fun back => ?_⟩
  rcases turned.works.timers timerId back with there | most
  · exact out there
  · omega

-- The clock is past its finish time, its timer is gone, and what is left would end it.
theorem Stuck.never_comes (stuck : Stuck run n c construction) (fresh : Fresh first) (fair : Fair run) : False := by
  obtain ⟨m,queue,after,due⟩ := stuck.due fresh fair
  have here (k : Nat) (later : m ≤ k) : Stuck run k c construction := stuck.later fresh (Nat.le_trans after later)
  obtain ⟨timerId,own⟩ : ∃ timerId, queue.timerId = some timerId := by
    obtain ⟨_,_,timerId,o⟩ := (run_sound fresh m).works.occupied _ _ (due m (Nat.le_refl _)).1.busy
    exact ⟨timerId,o.timer⟩
  have served (k : Nat) (later : m ≤ k) : (run.state k).works.Served construction.queueIndex queue timerId := by
    obtain ⟨_,_,id,o⟩ := (run_sound fresh k).works.occupied _ _ (due k later).1.busy
    cases own.symm.trans o.timer
    exact o.served
  obtain ⟨last,past,out⟩ : ∃ last, m ≤ last ∧ timerId ∉ (run.state last).works.timers := by
    by_cases pending : timerId ∈ (run.state m).works.timers
    · exact fair.timers m timerId pending
    · exact ⟨m,Nat.le_refl _,pending⟩
  have known : timerId < (run.state last).works.timerIndex := (run_sound fresh last).works.waiting _ _ _ (due last past).1.busy.1 own
  have called (k : Nat) (later : last ≤ k) : ∃ speedUp ∈ (run.state k).works.speeding, speedUp.Serves construction.queueIndex queue := by
    rcases served k (Nat.le_trans past later) with timer | ⟨time,call⟩ | speedUp
    · exact absurd (Table.mem_of_lookup timer) (timer_gone fresh known out later)
    · rw [(due k (Nat.le_trans past later)).1.building] at call
      exact absurd call ((here k (Nat.le_trans past later)).no_call fresh fair time)
    · exact speedUp
  obtain ⟨speedUp,there,serves⟩ := called last (Nat.le_refl _)
  obtain ⟨k,later,still,over_⟩ := leaves (fun k => (run.state k).works.speeding = some speedUp) there (fair.speeding last speedUp there)
  have does := ((run_turned fresh k).speeding _ still).resolve_left over_
  obtain ⟨next,stands,serving⟩ := called (k+1) (Nat.le_succ_of_le later)
  have kept := (run.next k).2
  rw [(run.next k).1,does] at stands
  rw [does] at kept
  have sped := kept _ still
  change next ∈ (Works.speedOn data _ _).speeding at stands
  unfold Works.speedOn at stands
  rw [still] at stands
  cases speedUp with
  | read => exact serves
  | deleted index sec copy =>
    -- Its time has come, so it does not set another timer.
    obtain ⟨rfl,time,its⟩ := serves
    obtain ⟨under,past_⟩ := due k (Nat.le_trans past later)
    have positive := under.busy.2
    have shortens : 0 ≤ sec := (run_sound fresh k).shortens _ still
    have some_ : sec < copy.finishTime := sped.resolve_left (by omega)
    dsimp only at stands
    rw [if_pos (by omega)] at stands
    cases stands
    have callBack : (run.state (k+1)).works.speeding = some (.upGradeBuildCallBack construction.queueIndex sec construction.buildingIndex) := by
      rw [(run.next k).1,does]
      change (Works.speedOn data _ _).speeding = _
      unfold Works.speedOn
      rw [still]
      dsimp only
      rw [if_pos (by omega),its,under.building]
    exact (here (k+1) (Nat.le_succ_of_le (Nat.le_trans past later))).no_callBack fresh fair sec callBack
  | upGradeBuildCallBack => cases stands
  | updateBuildTimer => cases stands

-- The moment a construction ends: it was not ended before, and its queue is free.
structure Ends (run : Endless (Guarded (fun s happening after => after = s.turn data happening) (Kept data)) first)
    (n c : Nat) (construction : Construction) : Prop where
  before : (run.state n).works.endsOf c = []
  once : ∃ e, (run.state (n+1)).works.endsOf c = [e] ∧ e.Fits construction
  free : ∃ queue, (run.state (n+1)).works.buildQueue.lookup construction.queueIndex = some queue ∧ queue.finishTime < 0

theorem run_ends (fresh : Fresh first) (fair : Fair run) (begun : (run.state n).works.constructions[c]? = some construction) :
    ∃ m, Ends run m c construction := by
  have ended : ∃ k, n ≤ k ∧ (run.state k).works.endsOf c ≠ [] := by
    by_contra never
    have stuck : Stuck run n c construction := ⟨begun,fun k later => by_contra fun some_ => never ⟨k,later,some_⟩⟩
    exact stuck.never_comes fresh fair
  obtain ⟨m,_,before,over_⟩ := leaves (fun k => (run.state k).works.endsOf c = [])
    (by unfold Works.endsOf; rw [run.start,fresh.ends]; rfl) (Exists.imp (fun k ended => ⟨Nat.zero_le k,ended.2⟩) ended)
  have turned : Turned (run.state m) (run.state (m+1)) (run.label m) := run_turned fresh m
  have account : (run.state (m+1)).works.constructions = (run.state m).works.constructions := by
    refine turned.works.account.resolve_left fun same => over_ ?_
    unfold Works.endsOf at before ⊢
    rw [same]
    exact before
  have known : ∃ other, (run.state m).works.constructions[c]? = some other := by
    obtain ⟨e,mem⟩ := List.exists_mem_of_ne_nil _ over_
    obtain ⟨entry,listed,rfl⟩ := List.mem_map.mp mem
    obtain ⟨there,own⟩ := List.mem_filter.mp listed
    obtain ⟨d,less,same⟩ := (run_sound fresh (m+1)).works.ends entry there
    obtain rfl : d = c := Option.some.inj (same.symm.trans (of_decide_eq_true own))
    rw [account] at less
    exact ⟨_,List.getElem?_eq_getElem less⟩
  obtain ⟨other,at_⟩ := known
  obtain rfl : other = construction := by
    rcases Nat.le_total m n with early | late
    · exact Option.some.inj ((begun_later fresh at_ early).symm.trans begun)
    · exact Option.some.inj (at_.symm.trans (begun_later fresh begun late))
  obtain ⟨e,once,fits⟩ : ∃ e, (run.state (m+1)).works.endsOf c = [e] ∧ e.Fits other := by
    rcases (run_sound fresh (m+1)).lifecycle.ended c other (begun_later fresh at_ (Nat.le_succ m)) with ⟨once,_⟩ | ⟨queue,under⟩
    · exact once
    · exact absurd under.under over_
  refine ⟨m,before,⟨e,once,fits⟩,?_⟩
  rcases (run_sound fresh m).lifecycle.ended c other at_ with ⟨⟨e,once,_⟩,_⟩ | ⟨queue,under⟩
  · cases once.symm.trans before
  · obtain ⟨next,found,change_⟩ := turned.works.queue _ _ under.busy
    have idle (busy : 0 < next.finishTime) (carried : next.construction = some c) : False := by
      obtain ⟨_,d,_,o⟩ := (run_sound fresh (m+1)).works.occupied _ _ ⟨found,busy⟩
      obtain rfl : d = c := Option.some.inj (o.carried.symm.trans carried)
      exact over_ o.under
    rcases change_ with rfl | free | ⟨_,same,_,_,busy,_⟩
    · exact (idle under.busy.2 under.carried).elim
    · exact ⟨next,found,free⟩
    · exact (idle busy (same.trans under.carried)).elim

end endless

-- Every run keeps the buildings, the queues and the account together, and in a fair one every
-- construction ends.
theorem constructions_kept (fresh : Fresh first) :
    (∀ happenings s, Runs (Guarded (fun s happening after => after = s.turn data happening) (Kept data)) first happenings s → Lifecycle s) ∧
    ∀ run : Endless (Guarded (fun s happening after => after = s.turn data happening) (Kept data)) first, Fair run →
      ∀ (n c : Nat) construction, (run.state n).works.constructions[c]? = some construction → ∃ m, Ends run m c construction := by
  refine ⟨fun happenings s path => ?_,fun run fair n c construction begun => run_ends fresh fair begun⟩
  have sound : s.Sound data := path.invariant (fun before happening after sound step => by rw [step.1]; exact (turn_sound sound happening step.2).1)
    fresh.sound
  exact sound.lifecycle

section role
-- Every level of the building takes a minute.
def minute : LevelData := fun ID => if 101 ≤ ID ∧ ID ≤ 103 then some 60 else none

def settlement (buildings : Table Nat Building) (buildQueue : Table Nat QueueInfo) : Role := ⟨100,⟨buildings,buildQueue,∅,0,∅,none,[],[]⟩,[]⟩

theorem settlement_fresh {buildings : Table Nat Building} {buildQueue : Table Nat QueueInfo}
    (idle : ∀ queueIndex queue, buildQueue.lookup queueIndex = some queue → queue.finishTime < 0 ∧ queue.timerId = none)
    (standing : ∀ buildingIndex building, buildings.lookup buildingIndex = some building → building.finishTime ≤ 0) : Fresh (settlement buildings buildQueue) :=
  ⟨by change (0 : Int) ≤ 100; decide,idle,standing,rfl,rfl,rfl,rfl,rfl⟩

-- A queue for good and one that expires at 150.
def pair : Table Nat QueueInfo := ((∅ : Table Nat QueueInfo).insert 2 (.unused 150)).insert 1 (.unused (-1))

theorem pair_idle (queueIndex : Nat) (queue : QueueInfo) (found : pair.lookup queueIndex = some queue) : queue.finishTime < 0 ∧ queue.timerId = none := by
  rcases Table.found_insert found with ⟨_,rfl⟩ | ⟨_,there⟩
  · exact ⟨by decide,rfl⟩
  · obtain ⟨_,rfl⟩ := Table.lookup_only there
    exact ⟨by decide,rfl⟩

def farm : List Happening :=
  [.ask (.createBuilding 1),.checkFreeBuildQueue (.createBuilding 1),.createBuliding 1 0 0 .stored,.clock 60,.fire 0,.upGradeBuildCallBack 0]

-- The farm is built and the clock goes on.
def farmBuilt : Endless (Guarded (fun s happening after => after = s.turn minute happening) (Kept minute)) (settlement ∅ pair) :=
  Endless.onward (turn minute) (.clock 1) farm (fun _ => trivial) (by decide)

theorem farmBuilt_later (n : Nat) : (farmBuilt.state (6+n)).works = (farmBuilt.state 6).works ∧ (farmBuilt.state (6+n)).now = 160+n := by
  induction n with
  | zero => exact ⟨rfl,by decide⟩
  | succ n ih =>
    have next : farmBuilt.state (6+(n+1)) = (farmBuilt.state (6+n)).turn minute (farm.getD (6+n) (.clock 1)) := (farmBuilt.next (6+n)).1
    rw [List.getD_eq_getElem?_getD,List.getElem?_eq_none (Nat.le_add_right 6 n)] at next
    rw [next]
    refine ⟨ih.1,?_⟩
    change (farmBuilt.state (6+n)).now+1 = _
    rw [ih.2]
    push_cast
    omega

theorem farmBuilt_idle : (farmBuilt.state 6).works.timers = ∅ ∧ (farmBuilt.state 6).works.calls = ∅ ∧ (farmBuilt.state 6).works.speeding = none := ⟨rfl,rfl,rfl⟩

theorem farmBuilt_fair : Fair farmBuilt := by
  refine ⟨fun time => ⟨6+time.toNat,?_⟩,fun n id _ => ⟨6+n,by omega,?_⟩,fun n id _ => ⟨6+n,by omega,?_⟩,fun n speedUp _ => ⟨6+n,by omega,?_⟩⟩
  · rw [(farmBuilt_later _).2]
    have := Int.self_le_toNat time
    omega
  · rw [(farmBuilt_later n).1,farmBuilt_idle.1]
    exact AList.notMem_empty _
  · rw [(farmBuilt_later n).1,farmBuilt_idle.2.1]
    exact AList.notMem_empty _
  · rw [(farmBuilt_later n).1,farmBuilt_idle.2.2]
    exact nofun

theorem farm_kept : Lifecycle (farmBuilt.state 6) ∧ ∃ m, Ends farmBuilt m 0 ⟨1,1,0⟩ := by
  have fresh : Fresh (settlement ∅ pair) := settlement_fresh pair_idle fun _ _ => nofun
  exact ⟨(constructions_kept fresh).1 farm _ (Runs.foldl_guarded (by decide)),(constructions_kept fresh).2 farmBuilt farmBuilt_fair 6 0 ⟨1,1,0⟩ (by decide)⟩

-- Two farms: the second is begun in the queue that expires before it is built, as 60 seconds are
-- less than the time 150.
def twoFarms : List Happening :=
  [.ask (.createBuilding 1),.checkFreeBuildQueue (.createBuilding 1),.createBuliding 1 0 0 .stored,
   .ask (.createBuilding 1),.checkFreeBuildQueue (.createBuilding 1),.createBuliding 1 0 0 .stored]

-- Two requests to upgrade the first farm pass their checks before either takes a queue. The second
-- callback finds the farm upgraded and leaves its queue busy.
def twoUpgrades : List Happening :=
  [.ask (.upGradeBuilding 1),.ask (.upGradeBuilding 1),.checkFreeBuildQueue (.upGradeBuilding 1),.checkFreeBuildQueue (.upGradeBuilding 1),
   .upGradeBuliding 1 0 0 .stored,.upGradeBuliding 1 0 0 .stored,.clock 60,.fire 0,.fire 1,.upGradeBuildCallBack 0,.upGradeBuildCallBack 1]

def twoQueues : Table Nat QueueInfo := ((∅ : Table Nat QueueInfo).insert 2 (.unused (-1))).insert 1 (.unused (-1))

def standing : Table Nat Building := (∅ : Table Nat Building).insert 1 ⟨1,1,-1⟩

theorem twoQueues_fresh : Fresh (settlement standing twoQueues) := by
  refine settlement_fresh (fun j queue found => ?_) (fun b building found => ?_)
  · rcases Table.found_insert found with ⟨_,rfl⟩ | ⟨_,there⟩
    · exact ⟨by decide,rfl⟩
    · obtain ⟨_,rfl⟩ := Table.lookup_only there
      exact ⟨by decide,rfl⟩
  · obtain ⟨_,rfl⟩ := Table.lookup_only found
    decide

theorem queue_left_busy :
    (∃ s, Runs (fun s happening after => after = s.turn minute happening) (settlement ∅ pair) twoFarms s ∧ Quiet s ∧ ¬ Lifecycle s) ∧
    (∃ s, Runs (fun s happening after => after = s.turn minute happening) (settlement standing twoQueues) twoUpgrades s ∧ Quiet s ∧ ¬ Lifecycle s) ∧
    Fresh (settlement ∅ pair) ∧ Fresh (settlement standing twoQueues) := by
  refine ⟨⟨_,Runs.foldl _ _ _,⟨rfl,rfl,rfl⟩,fun life => ?_⟩,⟨_,Runs.foldl _ _ _,⟨rfl,rfl,rfl⟩,fun life => ?_⟩,
    settlement_fresh pair_idle fun _ _ => nofun,twoQueues_fresh⟩
  · exact absurd (life.lasts 2 ⟨150,160,160,100,60,2,some 1,some 1⟩ ⟨rfl,by decide⟩) (by decide)
  · obtain ⟨building,found,raising⟩ := (life.named 1).mpr ⟨2,⟨-1,160,160,100,60,1,some 1,some 1⟩,⟨rfl,by decide⟩,rfl⟩
    obtain rfl : building = ⟨1,2,-1⟩ := Option.some.inj (found.symm.trans rfl)
    exact absurd raising (by decide)

end role

end OriginGame.BuildingLogic.Role
