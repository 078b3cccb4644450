import Mathlib.Algebra.Order.Ring.Int
import Mathlib.Logic.Function.Basic
import OriginGame.Runs

namespace OriginGame.SkynetTimer

structure TimerEvent where
  handle : Nat
  session : Int
deriving DecidableEq

-- expire is a uint32_t.
structure TimerNode where
  expire : Nat
  event : TimerEvent
deriving DecidableEq

-- A link_list is the nodes in it, the last that was linked at the end. All indexes are masked: 256 of `near`, 4 times 64 of `t`.
structure Timer where
  near : Nat → List TimerNode
  t : Nat → Nat → List TimerNode
  time : Nat

def timerCreateTimer : Timer := ⟨fun _ => [],fun _ _ => [],0⟩

def linkNear (T : Timer) (idx : Nat) (node : TimerNode) : Timer := {T with near:=Function.update T.near idx (T.near idx++[node])}

def linkLevel (T : Timer) (level idx : Nat) (node : TimerNode) : Timer :=
  {T with t:=Function.update T.t level (Function.update (T.t level) idx (T.t level idx++[node]))}

def clearNear (T : Timer) (idx : Nat) : Timer := {T with near:=Function.update T.near idx []}

def clearLevel (T : Timer) (level idx : Nat) : Timer := {T with t:=Function.update T.t level (Function.update (T.t level) idx [])}

-- `for (i=0;i<3;i++)`: the first level whose mask covers what differs.
def addLevel (time current_time : Nat) : Nat → Nat → Nat → Nat
  | 0,i,_ => i
  | rest+1,i,mask => if time|||(mask-1) = current_time|||(mask-1) then i else addLevel time current_time rest (i+1) (mask<<<6)

def addNode (T : Timer) (node : TimerNode) : Timer :=
  if node.expire|||255 = T.time|||255 then linkNear T (node.expire&&&255) node
  else
    let i := addLevel node.expire T.time 3 0 (256<<<6)
    linkLevel T i ((node.expire>>>(8+i*6))&&&63) node

-- The sum of an int and a uint32_t.
def timerAdd (T : Timer) (event : TimerEvent) (time : Int32) : Timer := addNode T ⟨((time.toInt+T.time)%2^32).toNat,event⟩

def moveList (T : Timer) (level idx : Nat) : Timer := (T.t level idx).foldl addNode (clearLevel T level idx)

-- `while ((ct & (mask-1))==0)`, none once there is no level left in T->t.
def shiftLoop (T : Timer) (ct : Nat) : Nat → Nat → Nat → Nat → Option Timer
  | 0,_,_,_ => none
  | levels+1,mask,time,i =>
    if ct&&&(mask-1) = 0 then
      if time&&&63 ≠ 0 then some (moveList T i (time&&&63)) else shiftLoop T ct levels (mask<<<6) (time>>>6) (i+1)
    else some T

def timerShift (T : Timer) : Option Timer :=
  let ct := (T.time+1)%2^32
  let T := {T with time:=ct}
  if ct = 0 then some (moveList T 3 0) else shiftLoop T ct 4 256 (ct>>>8) 0

-- `skynet_timeout`: the timer, and the message that is pushed at once.
def skynetTimeout (T : Timer) (event : TimerEvent) (time : Int32) : Timer × Option TimerEvent :=
  if time ≤ 0 then (T,some event) else (timerAdd T event time,none)

-- Where the thread of the timer is while the lock is free: between two updates, or with a list
-- of `timer_execute` to dispatch, before the shift or after it.
inductive Thread where
  | idle
  | first (current : List TimerNode)
  | second (current : List TimerNode)
deriving DecidableEq

-- What the machine does not store is kept beside it: `now` counts the shifts without end, `history` has the
-- shift at which a timeout is due, `log` what has been dispatched and when.
structure System where
  timer : Timer
  thread : Thread
  now : Nat
  history : List (Nat × TimerEvent)
  log : List (Nat × TimerEvent)

def init : System := ⟨timerCreateTimer,.idle,0,[],[]⟩

-- The loop of the second `timer_execute`, up to where it frees the lock.
def executeSecond (s : System) : System :=
  match s.timer.near (s.timer.time&&&255) with
  | [] => {s with thread:=.idle}
  | current => {s with timer:=clearNear s.timer (s.timer.time&&&255), thread:=.second current}

-- That of the first, and the shift when it has nothing left.
def executeFirst (s : System) : Option System :=
  match s.timer.near (s.timer.time&&&255) with
  | [] => do
    let timer ← timerShift s.timer
    some (executeSecond {s with timer:=timer, now:=s.now+1})
  | current => some {s with timer:=clearNear s.timer (s.timer.time&&&255), thread:=.first current}

inductive Label where
  | timeout (event : TimerEvent) (time : Int32)
  | update
  | dispatch
  | lock

-- A timeout comes from any other thread, whenever the lock is free.
def timeout (s : System) (event : TimerEvent) (time : Int32) : System :=
  {s with
    timer:=(skynetTimeout s.timer event time).1
    history:=if time ≤ 0 then s.history else s.history++[(s.now+time.toInt.toNat,event)]}

-- One message of `dispatch_list`.
def dispatch (s : System) : Option System := match s.thread with
  | .first (node::rest) => some {s with thread:=.first rest, log:=s.log++[(s.now,node.event)]}
  | .second (node::rest) => some {s with thread:=.second rest, log:=s.log++[(s.now,node.event)]}
  | _ => none

-- The loop goes on behind the last message.
def lock (s : System) : Option System := match s.thread with
  | .first [] => executeFirst s
  | .second [] => some (executeSecond s)
  | _ => none

-- `timer_update`, one for each hundredth of a second.
def update (s : System) : Option System := match s.thread with
  | .idle => executeFirst s
  | _ => none

def step (s : System) : Label → Option System
  | .timeout event time => some (timeout s event time)
  | .update => update s
  | .dispatch => dispatch s
  | .lock => lock s

end OriginGame.SkynetTimer
