import OriginGame.BuildingLogic

namespace OriginGame.BuildingLogic

-- What a role has asked for: the requests of proxy/Build.lua before they have looked for a free
-- queue, what RoleBuildQueueMgr has been sent, and speed-ups (of its own or of guild helps) for
-- RoleQueueMgr.
inductive Request where
  | createBuilding (type : Nat)
  | upGradeBuilding (buildingIndex : Nat)
  | createBuliding (type : Nat)
  | upGradeBuliding (buildingIndex : Nat)
  | endBuilding (buildingIndex : Nat)
  | speedUp (queueIndex : Nat) (sec : Int)
  deriving DecidableEq

structure Role where
  now : Int
  works : Works
  asked : List Request

inductive Happening where
  | clock (passed : Nat)
  | ask (request : Request)
  | checkFreeBuildQueue (request : Request)
  | refuse (request : Request)
  | createBuliding (type : Nat) (buildSpeedMulti : Int) (late : Nat) (order : Order Nat)
  | upGradeBuliding (buildingIndex : Nat) (buildSpeedMulti : Int) (late : Nat) (order : Order Nat)
  | endBuilding (buildingIndex : Nat) (order : Order Nat)
  | speedUp (queueIndex : Nat) (sec : Int)
  | speedOn
  | fire (timerId : Nat)
  | upGradeBuildCallBack (timerId : Nat)

namespace Role

-- CreateBuilding and UpGradeBuilding up to the free queue. What they check of other buildings,
-- resources and queues refuses a request at any time.
def admits (data : LevelData) (s : Role) : Request → Bool
  | .createBuilding type => (data (type*100+1)).isSome
  | .upGradeBuilding buildingIndex => (s.works.buildings.lookup buildingIndex).any (fun building =>
      (building.nextLevel data).isSome && !(building.finishTime > 0 && building.finishTime > s.now))
  | .createBuliding _ | .upGradeBuliding _ => false
  | .endBuilding _ | .speedUp _ _ => true

-- What a request is after checkFreeBuildQueue.
def checked (data : LevelData) (s : Role) : Request → Option Request
  | .createBuilding type =>
    if (data (type*100+1)).any (· > 0) && !s.works.checkFreeBuildQueue s.now then none else some (.createBuliding type)
  | .upGradeBuilding buildingIndex => if s.works.checkFreeBuildQueue s.now then some (.upGradeBuliding buildingIndex) else none
  | request => some request

def turn (data : LevelData) (s : Role) : Happening → Role
  | .clock passed => {s with now:=s.now+passed}
  | .ask request => if s.admits data request then {s with asked:=request::s.asked} else s
  | .checkFreeBuildQueue request =>
    if request ∈ s.asked then {s with asked:=(s.checked data request).toList++s.asked.erase request} else s
  | .refuse request => {s with asked:=s.asked.erase request}
  | .createBuliding type buildSpeedMulti late order =>
    if .createBuliding type ∈ s.asked then
      {now:=s.now+late, works:=(s.works.createBulidingImpl data order s.now late type buildSpeedMulti).1, asked:=s.asked.erase (.createBuliding type)}
    else s
  | .upGradeBuliding buildingIndex buildSpeedMulti late order =>
    if .upGradeBuliding buildingIndex ∈ s.asked then
      {now:=s.now+late, works:=(s.works.upGradeBulidingImpl data order s.now late buildingIndex buildSpeedMulti).1,
       asked:=s.asked.erase (.upGradeBuliding buildingIndex)}
    else s
  | .endBuilding buildingIndex order =>
    if .endBuilding buildingIndex ∈ s.asked then
      {s with works:=s.works.endBuilding data order buildingIndex, asked:=s.asked.erase (.endBuilding buildingIndex)}
    else s
  | .speedUp queueIndex sec =>
    if .speedUp queueIndex sec ∈ s.asked ∧ s.works.speeding = none then
      {s with works:=s.works.speedUp queueIndex sec, asked:=s.asked.erase (.speedUp queueIndex sec)}
    else s
  | .speedOn => {s with works:=s.works.speedOn data s.now}
  | .fire timerId => {s with works:=s.works.fire s.now timerId}
  | .upGradeBuildCallBack timerId => {s with works:=s.works.upGradeBuildCallBack data s.now timerId}

end Role

-- The queue's timer has not fired yet, or its callback waits.
def Works.Waited (w : Works) (queue : QueueInfo) : Prop := ∃ timerId ∈ queue.timerId, timerId ∈ w.timers ∨ timerId ∈ w.calls

instance (w : Works) (queue : QueueInfo) : Decidable (w.Waited queue) := inferInstanceAs (Decidable (∃ timerId ∈ queue.timerId,_))

-- A construction can end at that time in that queue.
def QueueInfo.Lasts (queue : QueueInfo) (finishTime : Int) : Prop :=
  0 < finishTime ∧ (queue.expiredTime = -1 ∨ finishTime ≤ queue.expiredTime)

instance (queue : QueueInfo) (finishTime : Int) : Decidable (queue.Lasts finishTime) := inferInstanceAs (Decidable (_ ∧ _))

-- The callback has nothing to raise, or the queue is busy with that building and at its time.
def Works.Due (w : Works) (now less : Int) (buildingIndex queueIndex : Nat) : Prop :=
  (∀ building ∈ w.buildings.lookup buildingIndex, building.finishTime ≤ 0) ∨
  ∃ queue ∈ w.buildQueue.lookup queueIndex, 0 < queue.finishTime ∧ queue.buildingIndex = buildingIndex ∧ queue.finishTime-less ≤ now

instance (w : Works) (now less : Int) (buildingIndex queueIndex : Nat) : Decidable (w.Due now less buildingIndex queueIndex) :=
  inferInstanceAs (Decidable (_ ∨ _))

-- What speedUp is about to do leaves no queue without a timer.
def Works.Sped (w : Works) (now : Int) : SpeedUp → Prop
  | .read _ _ _ => True
  | .deleted _ sec queue => queue.finishTime ≤ 0 ∨ sec < queue.finishTime
  | .upGradeBuildCallBack queueIndex sec buildingIndex => w.Due now sec buildingIndex queueIndex
  | .updateBuildTimer queueIndex sec => ∀ queue ∈ w.buildQueue.lookup queueIndex,
      queue.finishTime ≤ 0 ∨ now < queue.finishTime ∧ sec < queue.finishTime ∨ queue.finishTime ≤ now ∧ w.Waited queue

instance (w : Works) (now : Int) : (speedUp : SpeedUp) → Decidable (w.Sped now speedUp)
  | .read _ _ _ => isTrue trivial
  | .deleted _ _ _ => inferInstanceAs (Decidable (_ ∨ _))
  | .upGradeBuildCallBack _ _ _ => inferInstanceAs (Decidable (Works.Due _ _ _ _ _))
  | .updateBuildTimer _ _ => inferInstanceAs (Decidable (∀ queue ∈ _,_))

open Works in
-- Constructions start in a queue that lasts as long and, for an upgrade, of a building that is
-- not under construction. Callbacks come to the queue that is busy with their building, at its
-- time, or too late for any. Speed-ups take off no more than there is, and the queue is not due
-- without a timer when they set the next one.
def Kept (data : LevelData) (s : Role) : Happening → Prop
  | .createBuliding type buildSpeedMulti late order =>
    ∀ time ∈ data (type*100+1), time ≠ 0 → ∀ queueIndex ∈ s.works.freeQueue order (buildTime time buildSpeedMulti),
      ∀ queue ∈ s.works.buildQueue.lookup queueIndex, queue.Lasts (s.now+late+buildTime time buildSpeedMulti)
  | .upGradeBuliding buildingIndex buildSpeedMulti late order =>
    ∀ building ∈ s.works.buildings.lookup buildingIndex, ∀ time ∈ building.nextLevel data,
      ∀ queueIndex ∈ s.works.freeQueue order (s.now+buildTime time buildSpeedMulti), ∀ queue ∈ s.works.buildQueue.lookup queueIndex,
        building.finishTime ≤ 0 ∧ queue.Lasts (s.now+late+buildTime time buildSpeedMulti)
  | .speedUp _ sec => 0 ≤ sec
  | .speedOn => ∀ speedUp ∈ s.works.speeding, s.works.Sped s.now speedUp
  | .upGradeBuildCallBack timerId => ∀ timer ∈ s.works.calls.lookup timerId, s.works.Due s.now 0 timer.buildingIndex timer.queueIndex
  | _ => True

instance (data : LevelData) (s : Role) : (happening : Happening) → Decidable (Kept data s happening)
  | .createBuliding _ _ _ _ => inferInstanceAs (Decidable (∀ time ∈ _,_))
  | .upGradeBuliding _ _ _ _ => inferInstanceAs (Decidable (∀ building ∈ _,_))
  | .speedUp _ _ => inferInstanceAs (Decidable (_ ≤ _))
  | .speedOn => inferInstanceAs (Decidable (∀ speedUp ∈ _,_))
  | .upGradeBuildCallBack _ => inferInstanceAs (Decidable (∀ timer ∈ _,_))
  | .clock _ | .ask _ | .checkFreeBuildQueue _ | .refuse _ | .endBuilding _ _ | .fire _ => isTrue trivial

end OriginGame.BuildingLogic
