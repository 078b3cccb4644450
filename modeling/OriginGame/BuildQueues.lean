import OriginGame.RoleBuildQueueMgr

namespace OriginGame.BuildingLogic
variable {data : LevelData} {w after : Works} {queueIndex buildingIndex timerId c : Nat} {queue : QueueInfo} {building : Building} {now time sec : Int}

-- What becomes of a construction.
def End.Fits (construction : Construction) : End → Prop
  | .raised buildingIndex level time finishTime => buildingIndex = construction.buildingIndex ∧ level = construction.level+1 ∧ finishTime ≤ time
  | .cancelled buildingIndex => buildingIndex = construction.buildingIndex

-- The speed-up has taken the timer of the queue and still has its next call to make.
def SpeedUp.Serves (queueIndex : Nat) (queue : QueueInfo) : SpeedUp → Prop
  | .read _ _ _ => False
  | .deleted index _ copy => index = queueIndex ∧ copy.finishTime = queue.finishTime ∧ copy.buildingIndex = queue.buildingIndex
  | .upGradeBuildCallBack index _ buildingIndex => index = queueIndex ∧ buildingIndex = queue.buildingIndex
  | .updateBuildTimer index _ => index = queueIndex

def SpeedUp.seconds : SpeedUp → Int
  | .read _ sec _ | .deleted _ sec _ | .upGradeBuildCallBack _ sec _ | .updateBuildTimer _ sec => sec

def SpeedUp.copy : SpeedUp → Option (Nat×QueueInfo)
  | .read index _ copy | .deleted index _ copy => some (index,copy)
  | .upGradeBuildCallBack _ _ _ | .updateBuildTimer _ _ => none

namespace Works

def Busy (w : Works) (queueIndex : Nat) (queue : QueueInfo) : Prop := w.buildQueue.lookup queueIndex = some queue ∧ 0 < queue.finishTime

def endsOf (w : Works) (c : Nat) : List End := (w.ends.filter (fun e => e.1 = some c)).map Prod.snd

-- Something will come for the queue: its timer, the callback of it, or the speed-up.
def Served (w : Works) (queueIndex : Nat) (queue : QueueInfo) (timerId : Nat) : Prop :=
  w.timers.lookup timerId = some ⟨queue.finishTime,queue.buildingIndex,queueIndex⟩ ∨
  (∃ time, w.calls.lookup timerId = some ⟨time,queue.buildingIndex,queueIndex⟩) ∨
  ∃ speedUp ∈ w.speeding, speedUp.Serves queueIndex queue

-- A busy queue with its building, its construction and its timer.
structure Occupied (data : LevelData) (w : Works) (queueIndex : Nat) (queue : QueueInfo) (building : Building) (c timerId : Nat) : Prop where
  found : w.buildings.lookup queue.buildingIndex = some building
  raising : 0 < building.finishTime
  level : (building.nextLevel data).isSome
  lasts : queue.expiredTime = -1 ∨ queue.firstFinishTime ≤ queue.expiredTime
  carried : queue.construction = some c
  begun : w.constructions[c]? = some ⟨queue.buildingIndex,queueIndex,building.level⟩
  under : w.endsOf c = []
  timer : queue.timerId = some timerId
  served : w.Served queueIndex queue timerId

-- Timer ids are given once, to one queue each, with its arguments, and what a speed-up has read of
-- its queue is true for as long as the queue has that timer.
structure Timed (w : Works) : Prop where
  waiting : ∀ queueIndex queue timerId, w.buildQueue.lookup queueIndex = some queue → queue.timerId = some timerId → timerId < w.timerIndex
  timerIds : ∀ first second queue other timerId, w.buildQueue.lookup first = some queue → w.buildQueue.lookup second = some other →
    queue.timerId = some timerId → other.timerId = some timerId → first = second
  timers : ∀ timerId ∈ w.timers, timerId < w.timerIndex
  calls : ∀ timerId ∈ w.calls, timerId < w.timerIndex
  fired : ∀ timerId ∈ w.timers, timerId ∉ w.calls
  fits : ∀ queueIndex queue timerId, w.buildQueue.lookup queueIndex = some queue → queue.timerId = some timerId →
    (∀ timer, w.timers.lookup timerId = some timer → timer = ⟨queue.finishTime,queue.buildingIndex,queueIndex⟩) ∧
    ∀ timer, w.calls.lookup timerId = some timer → timer.buildingIndex = queue.buildingIndex ∧ timer.queueIndex = queueIndex
  copies : ∀ speedUp ∈ w.speeding, ∀ index copy timerId, speedUp.copy = some (index,copy) → copy.timerId = some timerId →
    timerId < w.timerIndex ∧ ∀ queueIndex queue, w.buildQueue.lookup queueIndex = some queue → queue.timerId = some timerId →
      queueIndex = index ∧ copy.finishTime = queue.finishTime ∧ copy.buildingIndex = queue.buildingIndex

structure Sound (data : LevelData) (w : Works) : Prop extends Timed w where
  occupied : ∀ queueIndex queue, w.Busy queueIndex queue → ∃ building c timerId, Occupied data w queueIndex queue building c timerId
  named : ∀ buildingIndex building, w.buildings.lookup buildingIndex = some building → 0 < building.finishTime →
    ∃ queueIndex queue, w.Busy queueIndex queue ∧ queue.buildingIndex = buildingIndex
  apart : ∀ first second queue other, w.Busy first queue → w.Busy second other → queue.buildingIndex = other.buildingIndex → first = second
  closed : ∀ (c : Nat) construction, w.constructions[c]? = some construction →
    (∃ queue, w.Busy construction.queueIndex queue ∧ queue.construction = some c) ∨ ∃ e, w.endsOf c = [e] ∧ e.Fits construction
  ends : ∀ e ∈ w.ends, ∃ c < w.constructions.length, e.1 = some c

-- A queue gets a new timer.
theorem Timed.renewed (timed : Timed w) (queues : after.buildQueue = w.buildQueue.insert queueIndex queue)
    (own : queue.timerId = some w.timerIndex) (timers : after.timers = w.timers.insert w.timerIndex ⟨queue.finishTime,queue.buildingIndex,queueIndex⟩)
    (timerIndex : after.timerIndex = w.timerIndex+1) (calls : after.calls = w.calls) (speeding : after.speeding = w.speeding) : Timed after := by
  have old {j id : Nat} {other : QueueInfo} (found : after.buildQueue.lookup j = some other) (its : other.timerId = some id) (less : id < w.timerIndex) :
      w.buildQueue.lookup j = some other := by
    rw [queues] at found
    rcases Table.found_insert found with ⟨_,rfl⟩ | ⟨_,there⟩
    · cases own.symm.trans its
      exact absurd less (Nat.lt_irrefl _)
    · exact there
  have split {j id : Nat} {other : QueueInfo} (found : after.buildQueue.lookup j = some other) (its : other.timerId = some id) :
      j = queueIndex ∧ id = w.timerIndex ∨ id < w.timerIndex := by
    rw [queues] at found
    rcases Table.found_insert found with ⟨same,rfl⟩ | ⟨_,there⟩
    · exact .inl ⟨same,(Option.some.inj (own.symm.trans its)).symm⟩
    · exact .inr (timed.waiting j other id there its)
  have known {id : Nat} (mem : id ∈ after.timers) : id = w.timerIndex ∨ id ∈ w.timers := by
    rw [timers] at mem
    exact (AList.mem_insert _).mp mem
  refine ⟨?_,?_,?_,?_,?_,?_,?_⟩
  · intro j other id found its
    rw [timerIndex]
    rcases split found its with ⟨_,rfl⟩ | less
    · exact Nat.lt_succ_self _
    · exact Nat.lt_succ_of_lt less
  · intro first second one two id foundOne foundTwo itsOne itsTwo
    rcases split foundOne itsOne with ⟨atOne,same⟩ | less
    · rcases split foundTwo itsTwo with ⟨atTwo,_⟩ | less
      · exact atOne.trans atTwo.symm
      · exact absurd less (by omega)
    · exact timed.timerIds first second one two id (old foundOne itsOne less) (old foundTwo itsTwo less) itsOne itsTwo
  · intro id mem
    rw [timerIndex]
    rcases known mem with rfl | there
    · exact Nat.lt_succ_self _
    · exact Nat.lt_succ_of_lt (timed.timers id there)
  · rw [calls,timerIndex]
    exact fun id mem => Nat.lt_succ_of_lt (timed.calls id mem)
  · rw [calls]
    intro id mem
    rcases known mem with rfl | there
    · exact fun called => absurd (timed.calls _ called) (Nat.lt_irrefl _)
    · exact timed.fired id there
  · intro j other id found its
    rw [timers,calls]
    rcases split found its with ⟨rfl,rfl⟩ | less
    · rw [queues,AList.lookup_insert] at found
      cases found
      refine ⟨fun timer at_ => ?_,fun timer called => absurd (timed.calls _ (Table.mem_of_lookup called)) (Nat.lt_irrefl _)⟩
      rw [AList.lookup_insert] at at_
      exact (Option.some.inj at_).symm
    · rw [AList.lookup_insert_ne (Nat.ne_of_lt less)]
      exact timed.fits j other id (old found its less) its
  · rw [speeding,timerIndex]
    intro speedUp mem index copy id its own
    obtain ⟨less,agree⟩ := timed.copies speedUp mem index copy id its own
    exact ⟨Nat.lt_succ_of_lt less,fun j other found same => agree j other (old found same less) same⟩

-- No building, queue or account is touched, and every busy queue is still served.
theorem Sound.frame {timers calls : Table Nat Timer} {speeding : Option SpeedUp} (sound : Sound data w)
    (timed : Timed {w with timers:=timers, calls:=calls, speeding:=speeding})
    (served : ∀ queueIndex queue timerId, w.Busy queueIndex queue → queue.timerId = some timerId → w.Served queueIndex queue timerId →
      Served {w with timers:=timers, calls:=calls, speeding:=speeding} queueIndex queue timerId) :
    Sound data {w with timers:=timers, calls:=calls, speeding:=speeding} := by
  refine ⟨timed,?_,sound.named,sound.apart,sound.closed,sound.ends⟩
  intro index queue busy
  obtain ⟨building,c,id,o⟩ := sound.occupied index queue busy
  exact ⟨building,c,id,o.found,o.raising,o.level,o.lasts,o.carried,o.begun,o.under,o.timer,served index queue id busy o.timer o.served⟩

-- A queue that is not touched keeps its construction.
theorem Occupied.kept (o : Occupied data w queueIndex queue building c timerId)
    (found : after.buildings.lookup queue.buildingIndex = w.buildings.lookup queue.buildingIndex)
    (begun : ∀ construction, w.constructions[c]? = some construction → after.constructions[c]? = some construction)
    (under : after.endsOf c = w.endsOf c) (served : w.Served queueIndex queue timerId → after.Served queueIndex queue timerId) :
    Occupied data after queueIndex queue building c timerId :=
  ⟨found.trans o.found,o.raising,o.level,o.lasts,o.carried,begun _ o.begun,under.trans o.under,o.timer,served o.served⟩

theorem Served.kept (there : w.Served queueIndex queue timerId) (timers : after.timers.lookup timerId = w.timers.lookup timerId)
    (calls : after.calls = w.calls) (speeding : after.speeding = w.speeding) : after.Served queueIndex queue timerId := by
  unfold Served at there ⊢
  rw [timers,calls,speeding]
  exact there

theorem Sound.raising (sound : Sound data w) (busy : w.Busy queueIndex queue) :
    ∃ building, w.buildings.lookup queue.buildingIndex = some building ∧ 0 < building.finishTime := by
  obtain ⟨building,c,id,o⟩ := sound.occupied _ _ busy
  exact ⟨building,o.found,o.raising⟩

theorem Sound.endsOf_new (sound : Sound data w) : w.endsOf w.constructions.length = [] := by
  unfold endsOf
  rw [List.map_eq_nil_iff,List.filter_eq_nil_iff]
  intro e mem same
  obtain ⟨c,less,own⟩ := sound.ends e mem
  rw [decide_eq_true_eq,own] at same
  exact absurd (Option.some.inj same) (Nat.ne_of_lt less)

theorem endsOf_more {e : End} (ends : after.ends = w.ends++[(some c,e)]) (d : Nat) :
    after.endsOf d = w.endsOf d++if c = d then [e] else [] := by
  unfold endsOf
  rw [ends,List.filter_append,List.map_append]
  congr 1
  by_cases same : c = d
  · subst same
    rw [if_pos rfl,List.filter_cons_of_pos (by simp)]
    rfl
  · rw [if_neg same,List.filter_cons_of_neg (by simpa using same)]
    rfl

-- An idle queue takes a building that is not under construction.
theorem construct_sound (sound : Sound data w) (there : w.buildQueue.lookup queueIndex = some queue) (free : queue.finishTime < 0)
    (clear : ∀ other, w.buildings.lookup buildingIndex = some other → other.finishTime ≤ 0) (level : (building.nextLevel data).isSome)
    (lasts : queue.Lasts (now+time)) : Sound data (w.construct now time queueIndex queue buildingIndex building) := by
  obtain ⟨timed,occupied,named,apart,closed,ends⟩ := id sound
  have away {j : Nat} {other : QueueInfo} (busy : w.Busy j other) : j ≠ queueIndex := by
    rintro rfl
    cases busy.1.symm.trans there
    exact absurd busy.2 (by omega)
  have elsewhere {j : Nat} {other : QueueInfo} (busy : w.Busy j other) : other.buildingIndex ≠ buildingIndex := by
    obtain ⟨standing,found,raising⟩ := sound.raising busy
    rintro rfl
    exact absurd (clear standing found) (by omega)
  have begun : (w.construct now time queueIndex queue buildingIndex building).Busy queueIndex _ := ⟨AList.lookup_insert _,lasts.1⟩
  have still {j : Nat} {other : QueueInfo} (busy : w.Busy j other) :
      (w.construct now time queueIndex queue buildingIndex building).Busy j other :=
    ⟨(AList.lookup_insert_ne (away busy)).trans busy.1,busy.2⟩
  have split {j : Nat} {other : QueueInfo} (busy : (w.construct now time queueIndex queue buildingIndex building).Busy j other) :
      j = queueIndex ∧ other.buildingIndex = buildingIndex ∨ w.Busy j other := by
    rcases Table.found_insert busy.1 with ⟨same,rfl⟩ | ⟨_,old⟩
    · exact .inl ⟨same,rfl⟩
    · exact .inr ⟨old,busy.2⟩
  refine ⟨timed.renewed rfl rfl rfl rfl rfl rfl,?_,?_,?_,?_,?_⟩
  · intro j other busy
    rcases Table.found_insert busy.1 with ⟨rfl,rfl⟩ | ⟨_,old⟩
    · exact ⟨{building with finishTime:=now+time},w.constructions.length,w.timerIndex,AList.lookup_insert _,lasts.1,level,lasts.2,rfl,
        List.getElem?_concat_length,sound.endsOf_new,rfl,.inl (AList.lookup_insert _)⟩
    · obtain ⟨standing,c,id,o⟩ := occupied j other ⟨old,busy.2⟩
      refine ⟨standing,c,id,o.kept (AList.lookup_insert_ne (elsewhere ⟨old,busy.2⟩)) ?_ rfl (fun served => served.kept ?_ rfl rfl)⟩
      · intro construction at_
        exact (List.getElem?_append_left (List.getElem?_eq_some_iff.mp at_).1).trans at_
      · exact AList.lookup_insert_ne (Nat.ne_of_lt (timed.waiting j other id old o.timer))
  · intro b standing found raising
    rcases Table.found_insert found with ⟨rfl,rfl⟩ | ⟨_,old⟩
    · exact ⟨queueIndex,_,begun,rfl⟩
    · obtain ⟨j,other,busy,own⟩ := named b standing old raising
      exact ⟨j,other,still busy,own⟩
  · intro first second one two busyOne busyTwo same
    rcases split busyOne with ⟨atOne,ownOne⟩ | oldOne <;> rcases split busyTwo with ⟨atTwo,ownTwo⟩ | oldTwo
    · exact atOne.trans atTwo.symm
    · exact absurd (same.symm.trans ownOne) (elsewhere oldTwo)
    · exact absurd (same.trans ownTwo) (elsewhere oldOne)
    · exact apart _ _ _ _ oldOne oldTwo same
  · intro d construction at_
    change (w.constructions++[_])[d]? = some construction at at_
    rcases Nat.lt_or_ge d w.constructions.length with less | most
    · rw [List.getElem?_append_left less] at at_
      rcases closed d construction at_ with ⟨other,busy,own⟩ | over_
      · exact .inl ⟨other,still busy,own⟩
      · exact .inr over_
    · obtain ⟨less,_⟩ := List.getElem?_eq_some_iff.mp at_
      obtain rfl : d = w.constructions.length := Nat.le_antisymm (Nat.le_of_lt_succ (by simpa using less)) most
      rw [List.getElem?_concat_length] at at_
      cases at_
      exact .inl ⟨_,begun,rfl⟩
  · intro e mem
    obtain ⟨d,less,own⟩ := ends e mem
    exact ⟨d,by simp only [construct,List.length_append,List.length_singleton]; omega,own⟩

-- What ends the construction of a queue: the callback or a cancellation.
structure Released (w after : Works) (queueIndex : Nat) (queue : QueueInfo) (e : End) : Prop where
  idle : ∃ idle, after.buildQueue = w.buildQueue.insert queueIndex idle ∧ idle.finishTime < 0 ∧ idle.timerId = none ∧ idle.construction = queue.construction
  building : ∀ building, after.buildings.lookup queue.buildingIndex = some building → building.finishTime ≤ 0
  buildings : ∀ buildingIndex, buildingIndex ≠ queue.buildingIndex → after.buildings.lookup buildingIndex = w.buildings.lookup buildingIndex
  timers : ∀ timerId, queue.timerId ≠ some timerId → after.timers.lookup timerId = w.timers.lookup timerId
  timer : ∀ timerId timer, after.timers.lookup timerId = some timer → w.timers.lookup timerId = some timer
  timerIndex : after.timerIndex = w.timerIndex
  calls : after.calls = w.calls
  speeding : after.speeding = w.speeding
  constructions : after.constructions = w.constructions
  ends : after.ends = w.ends++[(queue.construction,e)]

section released
variable {e : End}

theorem Released.busy (released : Released w after queueIndex queue e) {j : Nat} {other : QueueInfo} (busy : after.Busy j other) :
    j ≠ queueIndex ∧ w.Busy j other := by
  obtain ⟨idle,queues,free,_,_⟩ := released.idle
  have found := busy.1
  rw [queues] at found
  rcases Table.found_insert found with ⟨_,rfl⟩ | ⟨away,old⟩
  · exact absurd busy.2 (by omega)
  · exact ⟨away,old,busy.2⟩

theorem Released.still (released : Released w after queueIndex queue e) {j : Nat} {other : QueueInfo} (busy : w.Busy j other) (away : j ≠ queueIndex) :
    after.Busy j other := by
  obtain ⟨idle,queues,_⟩ := released.idle
  exact ⟨by rw [queues,AList.lookup_insert_ne away]; exact busy.1,busy.2⟩

-- A queue waits for a timer after it only when it did before.
theorem Released.waited (released : Released w after queueIndex queue e) {j : Nat} {other : QueueInfo} {id : Nat}
    (found : after.buildQueue.lookup j = some other) (own : other.timerId = some id) : w.buildQueue.lookup j = some other := by
  obtain ⟨idle,queues,_,none,_⟩ := released.idle
  rw [queues] at found
  rcases Table.found_insert found with ⟨_,rfl⟩ | ⟨_,old⟩
  · rw [none] at own
    cases own
  · exact old

theorem Released.mem (released : Released w after queueIndex queue e) {id : Nat} (mem : id ∈ after.timers) : id ∈ w.timers := by
  obtain ⟨timer,there⟩ := Table.lookup_of_mem mem
  exact Table.mem_of_lookup (released.timer id timer there)

theorem released_sound (sound : Sound data w) (busy : w.Busy queueIndex queue) (released : Released w after queueIndex queue e)
    (fits : ∀ building, w.buildings.lookup queue.buildingIndex = some building → e.Fits ⟨queue.buildingIndex,queueIndex,building.level⟩) :
    Sound data after := by
  obtain ⟨timed,occupied,named,apart,closed,ends⟩ := id sound
  obtain ⟨standing,c,timerId,mine⟩ := occupied _ _ busy
  have account : after.ends = w.ends++[(some c,e)] := by rw [released.ends,mine.carried]
  refine ⟨⟨?_,?_,?_,?_,?_,?_,?_⟩,?_,?_,?_,?_,?_⟩
  · intro j other id found own
    rw [released.timerIndex]
    exact timed.waiting j other id (released.waited found own) own
  · exact fun first second one two id foundOne foundTwo ownOne ownTwo =>
      timed.timerIds first second one two id (released.waited foundOne ownOne) (released.waited foundTwo ownTwo) ownOne ownTwo
  · intro id mem
    rw [released.timerIndex]
    exact timed.timers id (released.mem mem)
  · rw [released.calls,released.timerIndex]
    exact timed.calls
  · intro id mem
    rw [released.calls]
    exact timed.fired id (released.mem mem)
  · intro j other id found own
    obtain ⟨timer,call⟩ := timed.fits j other id (released.waited found own) own
    rw [released.calls]
    exact ⟨fun t there => timer t (released.timer id t there),call⟩
  · intro speedUp mem index copy id its own
    rw [released.speeding] at mem
    obtain ⟨less,agree⟩ := timed.copies speedUp mem index copy id its own
    rw [released.timerIndex]
    exact ⟨less,fun j other found same => agree j other (released.waited found same) same⟩
  · intro j other busyOther
    obtain ⟨away,old⟩ := released.busy busyOther
    obtain ⟨building,d,id,o⟩ := occupied j other old
    have differ : c ≠ d := by
      rintro rfl
      have same := mine.begun.symm.trans o.begun
      exact away (congrArg Construction.queueIndex (Option.some.inj same)).symm
    refine ⟨building,d,id,o.kept (released.buildings _ ?_) (fun _ at_ => by rw [released.constructions]; exact at_) ?_ ?_⟩
    · exact fun same => away (apart _ _ _ _ old busy same)
    · rw [endsOf_more account,if_neg differ,List.append_nil]
    · exact fun served => served.kept (released.timers id fun own => away (timed.timerIds _ _ _ _ _ old.1 busy.1 o.timer own)) released.calls released.speeding
  · intro b building found raising
    have other : b ≠ queue.buildingIndex := by
      rintro rfl
      exact absurd (released.building building found) (by omega)
    rw [released.buildings b other] at found
    obtain ⟨j,holder,old,own⟩ := named b building found raising
    refine ⟨j,holder,released.still old ?_,own⟩
    rintro rfl
    cases old.1.symm.trans busy.1
    exact other own.symm
  · exact fun first second one two busyOne busyTwo => apart first second one two (released.busy busyOne).2 (released.busy busyTwo).2
  · intro d construction at_
    rw [released.constructions] at at_
    by_cases same : c = d
    · subst same
      cases mine.begun.symm.trans at_
      exact .inr ⟨e,by rw [endsOf_more account,if_pos rfl,mine.under]; rfl,fits standing mine.found⟩
    · rw [endsOf_more account,if_neg same,List.append_nil]
      rcases closed d construction at_ with ⟨other,old,own⟩ | over_
      · refine .inl ⟨other,released.still old ?_,own⟩
        rintro rfl
        cases old.1.symm.trans busy.1
        exact same (Option.some.inj (mine.carried.symm.trans own))
      · exact .inr over_
  · intro one mem
    rw [account] at mem
    rw [released.constructions]
    rcases List.mem_append.mp mem with old | new
    · exact ends one old
    · cases List.mem_singleton.mp new
      exact ⟨c,(List.getElem?_eq_some_iff.mp mine.begun).1,rfl⟩

end released

-- updateBuildTimer sets a busy queue nearer, with a timer of its own again.
theorem updated_sound (sound : Sound data w) (busy : w.Busy queueIndex queue) (left : sec < queue.finishTime) :
    Sound data {w.addBuildTimer (queue.finishTime-sec) queue.buildingIndex queueIndex with
      buildQueue:=w.buildQueue.insert queueIndex {queue with finishTime:=queue.finishTime-sec, timerId:=some w.timerIndex}} := by
  obtain ⟨timed,occupied,named,apart,closed,ends⟩ := id sound
  obtain ⟨standing,c,timerId,mine⟩ := occupied _ _ busy
  generalize same : ({w.addBuildTimer (queue.finishTime-sec) queue.buildingIndex queueIndex with
      buildQueue:=w.buildQueue.insert queueIndex {queue with finishTime:=queue.finishTime-sec, timerId:=some w.timerIndex}} : Works) = after
  have queues : after.buildQueue = w.buildQueue.insert queueIndex {queue with finishTime:=queue.finishTime-sec, timerId:=some w.timerIndex} := by rw [← same]
  have nearer : after.Busy queueIndex {queue with finishTime:=queue.finishTime-sec, timerId:=some w.timerIndex} :=
    ⟨by rw [queues,AList.lookup_insert],by change 0 < queue.finishTime-sec; omega⟩
  have split {j : Nat} {other : QueueInfo} (found : after.buildQueue.lookup j = some other) :
      j = queueIndex ∧ other = {queue with finishTime:=queue.finishTime-sec, timerId:=some w.timerIndex} ∨
      j ≠ queueIndex ∧ w.buildQueue.lookup j = some other := by
    rw [queues] at found
    exact Table.found_insert found
  have still {j : Nat} {other : QueueInfo} (old : w.Busy j other) : ∃ now, after.Busy j now ∧ now.buildingIndex = other.buildingIndex ∧
      now.construction = other.construction := by
    by_cases at_ : j = queueIndex
    · subst at_
      cases old.1.symm.trans busy.1
      exact ⟨_,nearer,rfl,rfl⟩
    · exact ⟨other,⟨by rw [queues,AList.lookup_insert_ne at_]; exact old.1,old.2⟩,rfl,rfl⟩
  have was {j : Nat} {other : QueueInfo} (new : after.Busy j other) : ∃ then_, w.Busy j then_ ∧ then_.buildingIndex = other.buildingIndex := by
    rcases split new.1 with ⟨rfl,rfl⟩ | ⟨_,old⟩
    · exact ⟨queue,busy,rfl⟩
    · exact ⟨other,⟨old,new.2⟩,rfl⟩
  subst same
  refine ⟨timed.renewed rfl rfl rfl rfl rfl rfl,?_,?_,?_,?_,ends⟩
  · intro j other new
    rcases split new.1 with ⟨rfl,rfl⟩ | ⟨_,old⟩
    · exact ⟨standing,c,w.timerIndex,mine.found,mine.raising,mine.level,mine.lasts,mine.carried,mine.begun,mine.under,rfl,.inl (AList.lookup_insert _)⟩
    · obtain ⟨building,d,id,o⟩ := occupied j other ⟨old,new.2⟩
      exact ⟨building,d,id,o.kept rfl (fun _ at_ => at_) rfl (fun served =>
        served.kept (AList.lookup_insert_ne (Nat.ne_of_lt (timed.waiting j other id old o.timer))) rfl rfl)⟩
  · intro b building found raising
    obtain ⟨j,other,old,own⟩ := named b building found raising
    obtain ⟨now,new,same,_⟩ := still old
    exact ⟨j,now,new,same.trans own⟩
  · intro first second one two newOne newTwo same
    obtain ⟨_,oldOne,atOne⟩ := was newOne
    obtain ⟨_,oldTwo,atTwo⟩ := was newTwo
    exact apart _ _ _ _ oldOne oldTwo (atOne.trans (same.trans atTwo.symm))
  · intro d construction at_
    rcases closed d construction at_ with ⟨other,old,own⟩ | over_
    · obtain ⟨now,new,_,carried⟩ := still old
      exact .inl ⟨now,new,carried.trans own⟩
    · exact .inr over_

theorem freeQueue_idle {order : Order Nat} {needed : Int} (found : w.freeQueue order needed = some queueIndex) :
    ∃ queue, w.buildQueue.lookup queueIndex = some queue ∧ queue.finishTime < 0 := by
  have idle := List.find?_some found
  cases there : w.buildQueue.lookup queueIndex with
  | none =>
    rw [there] at idle
    cases idle
  | some queue =>
    rw [there,Option.any_some,Bool.and_eq_true] at idle
    exact ⟨queue,rfl,of_decide_eq_true idle.1⟩

-- Some index up to one more than there are buildings is not taken.
theorem getFreeBuildingIndex_free (w : Works) : w.buildings.lookup w.getFreeBuildingIndex = none := by
  unfold getFreeBuildingIndex
  cases found : (List.range' 1 w.buildings.keys.length).find? (fun i => (w.buildings.lookup i).isNone) with
  | some i =>
    have missing := List.find?_some found
    exact Option.isNone_iff_eq_none.mp missing
  | none =>
    refine AList.lookup_eq_none.mpr fun last => ?_
    have all : List.range' 1 (w.buildings.keys.length+1) ⊆ w.buildings.keys := by
      intro i mem
      obtain ⟨low,high⟩ := List.mem_range'_1.mp mem
      rcases Nat.lt_or_ge i (w.buildings.keys.length+1) with less | most
      · have taken := List.find?_eq_none.mp found i (List.mem_range'_1.mpr ⟨low,by omega⟩)
        exact AList.mem_keys.mp (AList.lookup_isSome.mp (by simpa [Option.isSome_iff_ne_none] using taken))
      · obtain rfl : i = w.buildings.keys.length+1 := by omega
        exact AList.mem_keys.mp last
    have room := ((List.nodup_range' 1).subperm all).length_le
    rw [List.length_range'] at room
    omega

-- A building that stands from the start.
theorem built_sound (sound : Sound data w) (absent : w.buildings.lookup buildingIndex = none) (idle : building.finishTime ≤ 0) :
    Sound data {w with buildings:=w.buildings.insert buildingIndex building} := by
  obtain ⟨timed,occupied,named,apart,closed,ends⟩ := sound
  refine ⟨⟨timed.waiting,timed.timerIds,timed.timers,timed.calls,timed.fired,timed.fits,timed.copies⟩,?_,?_,apart,closed,ends⟩
  · intro j other busy
    obtain ⟨standing,c,id,o⟩ := occupied j other busy
    refine ⟨standing,c,id,o.kept (AList.lookup_insert_ne ?_) (fun _ at_ => at_) rfl (fun served => served.kept rfl rfl rfl)⟩
    intro same
    rw [← same,o.found] at absent
    cases absent
  · intro b standing found raising
    rcases Table.found_insert found with ⟨_,rfl⟩ | ⟨_,old⟩
    · exact absurd raising (by omega)
    · exact named b standing old raising

theorem createBulidingImpl_sound {order : Order Nat} {late type multi} (sound : Sound data w)
    (lasts : ∀ time ∈ data (type*100+1), time ≠ 0 → ∀ queueIndex ∈ w.freeQueue order (buildTime time multi),
      ∀ queue ∈ w.buildQueue.lookup queueIndex, queue.Lasts (now+late+buildTime time multi)) :
    Sound data (w.createBulidingImpl data order now late type multi).1 := by
  unfold createBulidingImpl
  split
  · exact sound
  next buildingTime level =>
    dsimp only
    split_ifs with atOnce empty
    · exact built_sound sound w.getFreeBuildingIndex_free (Int.neg_nonpos_of_nonneg (by decide))
    · exact sound
    · split
      · exact sound
      next queueIndex chosen =>
        obtain ⟨queue,there,idle⟩ := freeQueue_idle chosen
        rw [there]
        refine construct_sound sound there idle ?_ (by simp [Building.nextLevel,level]) (lasts _ level atOnce _ chosen _ there)
        intro other found
        rw [w.getFreeBuildingIndex_free] at found
        cases found

theorem upGradeBulidingImpl_sound {order : Order Nat} {late multi} (sound : Sound data w)
    (lasts : ∀ building ∈ w.buildings.lookup buildingIndex, ∀ time ∈ building.nextLevel data,
      ∀ queueIndex ∈ w.freeQueue order (now+buildTime time multi), ∀ queue ∈ w.buildQueue.lookup queueIndex,
        building.finishTime ≤ 0 ∧ queue.Lasts (now+late+buildTime time multi)) :
    Sound data (w.upGradeBulidingImpl data order now late buildingIndex multi).1 := by
  unfold upGradeBulidingImpl
  split
  · exact sound
  next building found =>
    split
    · exact sound
    next buildingTime level =>
      split_ifs
      · exact sound
      · split
        · exact sound
        next queueIndex chosen =>
          obtain ⟨queue,there,idle⟩ := freeQueue_idle chosen
          rw [there]
          obtain ⟨clear,lasts⟩ := lasts _ found _ level _ chosen _ there
          refine construct_sound sound there idle ?_ (by rw [level]; rfl) lasts
          intro other same
          cases found.symm.trans same
          exact clear

theorem deleteBuildTimer_ne (w : Works) (own : queue.timerId ≠ some timerId) :
    (w.deleteBuildTimer queue.timerId).timers.lookup timerId = w.timers.lookup timerId := by
  unfold deleteBuildTimer
  split
  · rfl
  next id its =>
    refine AList.lookup_erase_ne ?_
    rintro rfl
    exact own its

theorem deleteBuildTimer_found {id : Option Nat} {timer : Timer} (found : (w.deleteBuildTimer id).timers.lookup timerId = some timer) :
    w.timers.lookup timerId = some timer := by
  unfold deleteBuildTimer at found
  split at found
  · exact found
  · exact (Table.found_erase found).2

theorem deleteBuildTimer_rest (w : Works) (id : Option Nat) : w.deleteBuildTimer id = {w with timers:=(w.deleteBuildTimer id).timers} := by
  unfold deleteBuildTimer
  split <;> rfl

theorem deleteBuildTimer_buildings (w : Works) (buildings : Table Nat Building) (id : Option Nat) :
    (deleteBuildTimer {w with buildings:=buildings} id).timers = (w.deleteBuildTimer id).timers := by
  unfold deleteBuildTimer
  split <;> rfl

-- A callback that is due raises the building its queue is busy with, or finds nothing to raise.
theorem upGradeBuildCallBackImpl_cases {less : Int} (sound : Sound data w) (due : w.Due now less buildingIndex queueIndex) :
    w.upGradeBuildCallBackImpl data now less buildingIndex queueIndex = w ∧
      (∀ building, w.buildings.lookup buildingIndex = some building → building.finishTime ≤ 0) ∨
    ∃ queue building, w.Busy queueIndex queue ∧ queue.buildingIndex = buildingIndex ∧ w.buildings.lookup buildingIndex = some building ∧
      queue.finishTime-less ≤ now ∧
      Released w (w.upGradeBuildCallBackImpl data now less buildingIndex queueIndex) queueIndex queue
        (.raised buildingIndex (building.level+1) now (queue.finishTime-less)) := by
  rcases due with none | ⟨queue,there,busy,rfl,reached⟩
  · refine .inl ⟨?_,none⟩
    unfold upGradeBuildCallBackImpl
    split
    · rfl
    next building found => rw [if_pos (none building found)]
  · obtain ⟨building,c,id,o⟩ := sound.occupied queueIndex queue ⟨there,busy⟩
    refine .inr ⟨queue,building,⟨there,busy⟩,rfl,o.found,reached,?_⟩
    have now_ : w.upGradeBuildCallBackImpl data now less queue.buildingIndex queueIndex =
        {w with
          timers:=(w.deleteBuildTimer queue.timerId).timers
          buildings:=w.buildings.insert queue.buildingIndex {building with level:=building.level+1, finishTime:=-1}
          buildQueue:=w.buildQueue.insert queueIndex {queue with
            finishTime:=-1, beginTime:=0, costTime:=0, firstFinishTime:=-1, timerId:=none, buildingIndex:=0}
          ends:=w.ends++[(queue.construction,.raised queue.buildingIndex (building.level+1) now (queue.finishTime-less))]} := by
      unfold upGradeBuildCallBackImpl
      rw [o.found]
      dsimp only
      rw [if_neg (by have := o.raising; omega),if_neg (by rw [Option.isNone_iff_eq_none]; exact Option.isSome_iff_ne_none.mp o.level),there]
      dsimp only
      rw [deleteBuildTimer_rest,deleteBuildTimer_buildings]
    rw [now_]
    refine ⟨⟨_,rfl,Int.neg_neg_of_pos (by decide),rfl,rfl⟩,?_,?_,?_,fun _ _ => deleteBuildTimer_found,rfl,rfl,rfl,rfl,rfl⟩
    · intro other found
      rw [AList.lookup_insert] at found
      cases found
      exact Int.neg_nonpos_of_nonneg (by decide)
    · exact fun _ away => AList.lookup_insert_ne away
    · exact fun _ => deleteBuildTimer_ne w

theorem upGradeBuildCallBackImpl_sound {less : Int} (sound : Sound data w) (due : w.Due now less buildingIndex queueIndex) :
    Sound data (w.upGradeBuildCallBackImpl data now less buildingIndex queueIndex) := by
  rcases upGradeBuildCallBackImpl_cases sound due with ⟨same,_⟩ | ⟨queue,building,busy,rfl,found,reached,released⟩
  · rw [same]
    exact sound
  · refine released_sound sound busy released ?_
    intro other there
    cases found.symm.trans there
    exact ⟨rfl,rfl,reached⟩

-- After it the queue is not busy with that building.
theorem upGradeBuildCallBackImpl_idle {less : Int} (sound : Sound data w) (due : w.Due now less buildingIndex queueIndex)
    (busy : (w.upGradeBuildCallBackImpl data now less buildingIndex queueIndex).Busy queueIndex queue) : queue.buildingIndex ≠ buildingIndex := by
  rcases upGradeBuildCallBackImpl_cases sound due with ⟨same,none⟩ | ⟨_,_,_,_,_,_,released⟩
  · rw [same] at busy
    obtain ⟨building,found,raising⟩ := sound.raising busy
    rintro rfl
    exact absurd (none building found) (by omega)
  · exact absurd rfl (released.busy busy).1

theorem upGradeBuildCallBackImpl_waiting (data : LevelData) (now less : Int) (buildingIndex queueIndex : Nat) (w : Works) :
    (w.upGradeBuildCallBackImpl data now less buildingIndex queueIndex).calls = w.calls ∧
    (w.upGradeBuildCallBackImpl data now less buildingIndex queueIndex).speeding = w.speeding := by
  unfold upGradeBuildCallBackImpl
  split
  · exact ⟨rfl,rfl⟩
  · dsimp only
    split_ifs
    · exact ⟨rfl,rfl⟩
    · exact ⟨rfl,rfl⟩
    · split
      · exact ⟨rfl,rfl⟩
      · rw [deleteBuildTimer_rest]
        exact ⟨rfl,rfl⟩

-- Each turn of endBuilding's loop leaves the queue alone or cancels what it is busy with.
theorem endBuildings_cons (sound : Sound data w) (buildingIndex queueIndex : Nat) (rest : List Nat) :
    w.endBuildings data buildingIndex (queueIndex::rest) = w.endBuildings data buildingIndex rest ∨
    ∃ queue after, w.Busy queueIndex queue ∧ queue.buildingIndex = buildingIndex ∧ Released w after queueIndex queue (.cancelled buildingIndex) ∧
      w.endBuildings data buildingIndex (queueIndex::rest) = after.endBuildings data buildingIndex rest := by
  cases there : w.buildQueue.lookup queueIndex with
  | none =>
    refine .inl ?_
    rw [endBuildings,there]
  | some queue =>
    by_cases its : queue.buildingIndex = buildingIndex ∧ queue.finishTime > 0
    · obtain ⟨rfl,busy⟩ := id its
      obtain ⟨building,c,id,o⟩ := sound.occupied queueIndex queue ⟨there,busy⟩
      refine .inr ⟨queue,_,⟨there,busy⟩,rfl,?_,by
        rw [endBuildings,there]
        dsimp only
        rw [if_pos its,o.found]
        dsimp only
        rw [if_neg (by rw [Option.isNone_iff_eq_none]; exact Option.isSome_iff_ne_none.mp o.level)]⟩
      rw [deleteBuildTimer_rest]
      refine ⟨⟨_,rfl,Int.neg_neg_of_pos (by decide),rfl,rfl⟩,?_,?_,?_,fun _ _ => deleteBuildTimer_found,rfl,rfl,rfl,rfl,rfl⟩
      · intro other found
        dsimp only at found
        split_ifs at found
        · rw [AList.lookup_erase] at found
          cases found
        · rw [AList.lookup_insert] at found
          cases found
          exact Int.neg_nonpos_of_nonneg (by decide)
      · intro b away
        dsimp only
        split_ifs
        · exact AList.lookup_erase_ne away
        · exact AList.lookup_insert_ne away
      · exact fun _ => deleteBuildTimer_ne w
    · refine .inl ?_
      rw [endBuildings,there]
      dsimp only
      rw [if_neg its]

theorem endBuildings_sound (keys : List Nat) (sound : Sound data w) : Sound data (w.endBuildings data buildingIndex keys) := by
  induction keys generalizing w with
  | nil => exact sound
  | cons queueIndex rest ih =>
    rcases endBuildings_cons sound buildingIndex queueIndex rest with same | ⟨queue,after,busy,rfl,released,same⟩
    · rw [same]
      exact ih sound
    · rw [same]
      exact ih (released_sound sound busy released fun _ _ => rfl)

theorem updateBuildTimer_sound (sound : Sound data w)
    (left : ∀ queue ∈ w.buildQueue.lookup queueIndex, queue.finishTime ≤ 0 ∨ now < queue.finishTime ∧ sec < queue.finishTime ∨
      queue.finishTime ≤ now ∧ w.Waited queue) (late : 0 ≤ now) : Sound data (w.updateBuildTimer now queueIndex sec) := by
  unfold updateBuildTimer
  split
  · exact sound
  next queue there =>
    split
    next ahead =>
      refine updated_sound sound ⟨there,by omega⟩ ?_
      rcases left queue there with over_ | ⟨_,less⟩ | ⟨due,_⟩
      · omega
      · exact less
      · omega
    · exact sound

-- The callback of a timer is done with when its queue is not busy with its building.
theorem dropped_sound {timer : Timer} (sound : Sound data w) (there : w.calls.lookup timerId = some timer)
    (idle : ∀ queue, w.Busy timer.queueIndex queue → queue.buildingIndex ≠ timer.buildingIndex) :
    Sound data {w with calls:=w.calls.erase timerId} := by
  have known {id : Nat} (mem : id ∈ w.calls.erase timerId) : id ∈ w.calls := (AList.mem_erase.mp mem).2
  refine sound.frame ⟨sound.waiting,sound.timerIds,sound.timers,fun id mem => sound.calls id (known mem),
    fun id mem called => sound.fired id mem (known called),?_,sound.copies⟩ ?_
  · intro j other id found own
    obtain ⟨timer_,call⟩ := sound.fits j other id found own
    exact ⟨timer_,fun t there => call t (Table.found_erase there).2⟩
  intro j other id busy own served
  rcases served with timer_ | ⟨time,call⟩ | speedUp
  · exact .inl timer_
  · refine .inr (.inl ⟨time,(AList.lookup_erase_ne ?_).trans call⟩)
    rintro rfl
    cases there.symm.trans call
    exact idle other busy rfl
  · exact .inr (.inr speedUp)

theorem upGradeBuildCallBack_sound (sound : Sound data w)
    (due : ∀ timer ∈ w.calls.lookup timerId, w.Due now 0 timer.buildingIndex timer.queueIndex) : Sound data (w.upGradeBuildCallBack data now timerId) := by
  unfold upGradeBuildCallBack
  split
  · exact sound
  next timer there =>
    have waiting := upGradeBuildCallBackImpl_waiting data now 0 timer.buildingIndex timer.queueIndex w
    have done_ := dropped_sound (upGradeBuildCallBackImpl_sound sound (due timer there)) (by rw [waiting.1]; exact there)
      (fun _ => upGradeBuildCallBackImpl_idle sound (due timer there))
    rw [waiting.1] at done_
    exact done_

theorem fire_sound (sound : Sound data w) : Sound data (w.fire now timerId) := by
  unfold fire
  split
  · exact sound
  next timer there =>
    split
    · have mem : timerId ∈ w.timers := Table.mem_of_lookup there
      refine sound.frame ⟨sound.waiting,sound.timerIds,fun id left => sound.timers id (AList.mem_erase.mp left).2,?_,?_,?_,sound.copies⟩ ?_
      · intro id called
        rcases (AList.mem_insert _).mp called with rfl | old
        · exact sound.timers _ mem
        · exact sound.calls id old
      · intro id left called
        obtain ⟨away,there_⟩ := AList.mem_erase.mp left
        rcases (AList.mem_insert _).mp called with same | old
        · exact away same
        · exact sound.fired id there_ old
      · intro j other id found own
        obtain ⟨timer_,call⟩ := sound.fits j other id found own
        refine ⟨fun t left => timer_ t (Table.found_erase left).2,fun t called => ?_⟩
        rcases Table.found_insert called with ⟨rfl,rfl⟩ | ⟨_,old⟩
        · cases timer_ _ there
          exact ⟨rfl,rfl⟩
        · exact call t old
      · intro j other id busy own served
        rcases served with timer_ | ⟨time,call⟩ | speedUp
        · by_cases same : id = timerId
          · subst same
            cases there.symm.trans timer_
            exact .inr (.inl ⟨_,AList.lookup_insert _⟩)
          · exact .inl ((AList.lookup_erase_ne same).trans timer_)
        · refine .inr (.inl ⟨time,(AList.lookup_insert_ne ?_).trans call⟩)
          rintro rfl
          exact sound.fired _ mem (Table.mem_of_lookup call)
        · exact .inr (.inr speedUp)
    · exact sound

theorem speedUp_sound (sound : Sound data w) (idle : w.speeding = none) : Sound data (w.speedUp queueIndex sec) := by
  refine sound.frame ⟨sound.waiting,sound.timerIds,sound.timers,sound.calls,sound.fired,sound.fits,?_⟩ ?_
  · intro speedUp mem index copy id its own
    obtain ⟨queue,there,rfl⟩ := Option.map_eq_some_iff.mp mem
    cases its
    refine ⟨sound.waiting _ _ _ there own,fun j other found same => ?_⟩
    obtain rfl := sound.timerIds _ _ _ _ _ found there same own
    cases found.symm.trans there
    exact ⟨rfl,rfl,rfl⟩
  · intro j other id busy own served
    rcases served with timer_ | call | ⟨speedUp,mem,_⟩
    · exact .inl timer_
    · exact .inr (.inl call)
    · rw [idle] at mem
      cases mem

-- The speed-up goes to where it holds no copy, and serves the queues it served.
theorem onward_sound {next : Option SpeedUp} (sound : Sound data w) (alone : ∀ speedUp ∈ next, speedUp.copy = none)
    (serves : ∀ speedUp ∈ w.speeding, ∀ queueIndex queue, w.Busy queueIndex queue → speedUp.Serves queueIndex queue →
      ∃ speedUp ∈ next, speedUp.Serves queueIndex queue) : Sound data {w with speeding:=next} := by
  refine sound.frame ⟨sound.waiting,sound.timerIds,sound.timers,sound.calls,sound.fired,sound.fits,?_⟩ ?_
  · intro speedUp mem index copy id its
    rw [alone speedUp mem] at its
    cases its
  · intro j other id busy own served
    rcases served with timer_ | call | ⟨speedUp,mem,its⟩
    · exact .inl timer_
    · exact .inr (.inl call)
    · exact .inr (.inr (serves speedUp mem j other busy its))

theorem Timed.served (timed : Timed w) (found : w.buildQueue.lookup queueIndex = some queue) (own : queue.timerId = some timerId)
    (waited : timerId ∈ w.timers ∨ timerId ∈ w.calls) (speeding : Option SpeedUp) : Served {w with speeding:=speeding} queueIndex queue timerId := by
  obtain ⟨fitTimer,fitCall⟩ := timed.fits queueIndex queue timerId found own
  rcases waited with pending | called
  · obtain ⟨timer,there⟩ := Table.lookup_of_mem pending
    cases fitTimer timer there
    exact .inl there
  · obtain ⟨timer,there⟩ := Table.lookup_of_mem called
    obtain ⟨its,at_⟩ := fitCall timer there
    refine .inr (.inl ⟨timer.time,?_⟩)
    rw [← its,← at_]
    exact there

-- After updateBuildTimer the queue has a timer, unless it is not busy.
theorem updateBuildTimer_waited (left : ∀ queue ∈ w.buildQueue.lookup queueIndex, queue.finishTime ≤ 0 ∨
      now < queue.finishTime ∧ sec < queue.finishTime ∨ queue.finishTime ≤ now ∧ w.Waited queue)
    (busy : (w.updateBuildTimer now queueIndex sec).Busy queueIndex queue) : (w.updateBuildTimer now queueIndex sec).Waited queue := by
  unfold updateBuildTimer at busy ⊢
  split at busy
  next missing =>
    rw [Busy,missing] at busy
    cases busy.1
  next before there =>
    split at busy
    next ahead =>
      rw [if_pos ahead]
      obtain ⟨found,_⟩ := busy
      rw [AList.lookup_insert] at found
      cases found
      exact ⟨w.timerIndex,rfl,.inl ((AList.mem_insert _).mpr (.inl rfl))⟩
    next past =>
      rw [if_neg past]
      cases there.symm.trans busy.1
      rcases left _ there with over_ | ⟨ahead,_⟩ | ⟨_,waited⟩
      · exact absurd busy.2 (by omega)
      · exact absurd ahead past
      · exact waited

theorem updateBuildTimer_speeding (now : Int) (queueIndex : Nat) (sec : Int) (w : Works) :
    (w.updateBuildTimer now queueIndex sec).speeding = w.speeding := by
  unfold updateBuildTimer
  split
  · rfl
  · split <;> rfl

theorem speedOn_sound (sound : Sound data w) (sped : ∀ speedUp ∈ w.speeding, w.Sped now speedUp) (late : 0 ≤ now) : Sound data (w.speedOn data now) := by
  unfold speedOn
  split
  · exact sound
  next index sec copy under =>
    rw [deleteBuildTimer_rest]
    refine sound.frame ⟨sound.waiting,sound.timerIds,?_,sound.calls,?_,?_,?_⟩ ?_
    · intro id mem
      obtain ⟨timer,there⟩ := Table.lookup_of_mem mem
      exact sound.timers id (Table.mem_of_lookup (deleteBuildTimer_found there))
    · intro id mem
      obtain ⟨timer,there⟩ := Table.lookup_of_mem mem
      exact sound.fired id (Table.mem_of_lookup (deleteBuildTimer_found there))
    · intro j other id found own
      obtain ⟨timer,call⟩ := sound.fits j other id found own
      exact ⟨fun t there => timer t (deleteBuildTimer_found there),call⟩
    · intro speedUp mem j other id its own
      cases mem
      cases its
      exact sound.copies _ under index copy id rfl own
    · intro j other id busy own served
      by_cases its : copy.timerId = some id
      · obtain ⟨rfl,time,at_⟩ := (sound.copies _ under index copy id rfl its).2 j other busy.1 own
        exact .inr (.inr ⟨_,rfl,rfl,time,at_⟩)
      · rcases served with timer | call | ⟨speedUp,mem,serves⟩
        · exact .inl ((deleteBuildTimer_ne w its).trans timer)
        · exact .inr (.inl call)
        · cases under.symm.trans mem
          exact serves.elim
  next index sec copy under =>
    refine onward_sound sound ?_ ?_
    · intro speedUp mem
      split_ifs at mem
      all_goals cases mem
      all_goals rfl
    · intro speedUp mem j other busy serves
      cases under.symm.trans mem
      obtain ⟨rfl,time,at_⟩ := serves
      have some_ : sec < copy.finishTime := (sped _ under).resolve_left (by have := busy.2; omega)
      split_ifs with reached ahead
      · exact ⟨_,rfl,rfl,at_⟩
      · exact ⟨_,rfl,rfl⟩
      · omega
  next index sec b under =>
    have waiting := upGradeBuildCallBackImpl_waiting data now sec b index w
    refine onward_sound (upGradeBuildCallBackImpl_sound sound (sped _ under)) (fun _ held => absurd held (Option.not_mem_none _)) ?_
    intro speedUp mem j other busy serves
    rw [waiting.2,under] at mem
    cases mem
    obtain ⟨rfl,at_⟩ := serves
    exact absurd at_.symm (upGradeBuildCallBackImpl_idle sound (sped _ under) busy)
  next index sec under =>
    have updated := updateBuildTimer_sound sound (sped _ under) late
    refine updated.frame ⟨updated.waiting,updated.timerIds,updated.timers,updated.calls,updated.fired,updated.fits,
      fun _ held => absurd held (Option.not_mem_none _)⟩ ?_
    intro j other id busy own served
    rcases served with timer | call | ⟨speedUp,mem,serves⟩
    · exact .inl timer
    · exact .inr (.inl call)
    · rw [updateBuildTimer_speeding,under] at mem
      cases mem
      cases serves
      obtain ⟨id',its,waited⟩ := updateBuildTimer_waited (sped _ under) busy
      cases own.symm.trans its
      exact updated.toTimed.served busy.1 own waited none

end Works

end OriginGame.BuildingLogic
