import Mathlib.Data.List.Sort
import OriginGame.LuaTable
import OriginGame.Runs

namespace OriginGame.RoleTimerLogic

-- `func` and `args` are told apart by the index the timer got when it was registered, which
-- the source does not keep.
structure Info where
  interval : Int
  isLogoutDelete : Bool
  origin : Nat
  deriving DecidableEq

-- roleTimers[rid][timeStamp], with a number of its own: a traversal holds on to the table it began.
structure Bucket where
  id : Nat
  infos : Table Nat Info

-- What happened, for the statements about it.
inductive Mark where
  | added (timerIndex : Nat) (timeStamp : Int) (info : Info)
  | called (timerIndex : Nat) (now : Int)
  | deleted (timerIndex : Nat)
  | ended (due : List Nat)
  deriving DecidableEq

-- The tables of one role. `detached` has the buckets taken out of roleTimers as a whole.
structure Role where
  now : Int
  roleTimers : Option (Table Int Bucket)
  roleTimerSorts : Option (List Int)
  roleRunTimerId : Option Nat
  timerIndex : Nat
  nextBucket : Nat
  detached : Table (Int×Nat) (Table Nat Info)
  history : List Mark

namespace Role

def find (r : Role) (timeStamp : Int) (timerIndex : Nat) : Option Info :=
  (r.roleTimers.bind (fun table => table.lookup timeStamp)).bind (fun bucket => bucket.infos.lookup timerIndex)

def bucketAt (r : Role) (timeStamp : Int) : Option Bucket := r.roleTimers.bind (fun table => table.lookup timeStamp)

-- The table a traversal began at the time stamp, as it is now.
def content (r : Role) (timeStamp : Int) (id : Nat) : Table Nat Info :=
  match r.bucketAt timeStamp with
  | some bucket => if bucket.id = id then bucket.infos else (r.detached.lookup (timeStamp,id)).getD ∅
  | none => (r.detached.lookup (timeStamp,id)).getD ∅

-- The tables set to nil, and deleteRoleTimerTick.
def clear (r : Role) : Role := {r with roleTimers:=none, roleTimerSorts:=none, roleRunTimerId:=none}

-- addTimer after getTimerIndex has answered. A timer that is added again keeps its origin.
def addTimer (r : Role) (afterInterval interval : Int) (isLogoutDelete : Bool) (origin : Option Nat) : Role :=
  let timeStamp := r.now+afterInterval
  let info : Info := ⟨interval,isLogoutDelete,origin.getD r.timerIndex⟩
  let table := r.roleTimers.getD ∅
  let bucket := (table.lookup timeStamp).getD ⟨r.nextBucket,∅⟩
  let table := table.insert timeStamp {bucket with infos:=bucket.infos.insert r.timerIndex info}
  {r with
    roleTimers:=some table
    roleTimerSorts:=some (table.keys.insertionSort (fun a b => a ≤ b))
    timerIndex:=r.timerIndex+1
    nextBucket:=r.nextBucket+1
    history:=.added r.timerIndex timeStamp info::r.history}

def indexes (table : Table Int Bucket) (among : Int → Nat → Info → Bool) : List Nat :=
  table.entries.flatMap (fun e => (e.2.infos.entries.filter (fun t => among e.1 t.1 t.2)).map (fun t => t.1))

-- What deleteTimer and deleteTimerOnRoleLogout share.
def removeTimers (r : Role) (gone : Nat → Info → Bool) : Role :=
  match r.roleTimers with
  | none => r
  | some table =>
    let kept := (table.mapValues (fun bucket => {bucket with infos:=bucket.infos.keepKeyed (fun timerIndex info => !gone timerIndex info)})).keepValues
      (fun bucket => !bucket.infos.keys.isEmpty)
    let r := {r with roleTimers:=some kept, history:=(indexes table (fun _ => gone)).map .deleted++r.history}
    if kept.keys = [] then clear r else r

def deleteTimer (r : Role) (timerIndex : Nat) : Role := removeTimers r (fun other _ => other = timerIndex)

def deleteTimerOnRoleLogout (r : Role) : Role := removeTimers r (fun _ info => info.isLogoutDelete)

-- `roleTimers[rid][timeStamp] = nil`
def drop (r : Role) (timeStamp : Int) : Role :=
  match r.roleTimers with
  | none => r
  | some table =>
    match table.lookup timeStamp with
    | none => r
    | some bucket => {r with roleTimers:=some (table.erase timeStamp), detached:=r.detached.insert (timeStamp,bucket.id) bucket.infos}

end Role

-- The locals of run, with the timers that were due when it began.
structure Locals where
  now : Int
  addTimers : Table Int (List Info)
  deleteTimers : List Int
  due : List Nat

-- Where run is suspended: in the function of a timer, or in getTimerIndex for one that is
-- added again.
inductive Tick where
  | calling (l : Locals) (left : List Int) (timeStamp : Int) (bucket : Nat) (keys : List Nat) (timerIndex : Nat) (info : Info)
  | adding (l : Locals) (info : Info) (rest : List Info)

structure Orders where
  keys : Order Nat
  intervals : Order Int

-- The next timer of the traversal that is still there.
def nextTimer (infos : Table Nat Info) : List Nat → Option (Nat×Info×List Nat)
  | [] => none
  | timerIndex::keys =>
    match infos.lookup timerIndex with
    | some info => some (timerIndex,info,keys)
    | none => nextTimer infos keys

def call (r : Role) (l : Locals) (left : List Int) (timeStamp : Int) (bucket : Nat) (found : Nat×Info×List Nat) : Role×Option Tick :=
  ({r with history:=.called found.1 l.now::r.history},some (.calling l left timeStamp bucket found.2.2 found.1 found.2.1))

def passed (r : Role) (l : Locals) (timeStamp : Int) : Locals :=
  if r.roleTimerSorts.isSome then {l with deleteTimers:=l.deleteTimers++[timeStamp]} else l

def ended (r : Role) (l : Locals) : Role×Option Tick := ({r with history:=.ended l.due::r.history},none)

def addAgain (l : Locals) (info : Info) : Locals :=
  if 0 < info.interval then {l with addTimers:=l.addTimers.insert info.interval ((l.addTimers.lookup info.interval).getD []++[info])} else l

section run
variable (orders : Orders)

def finish (r : Role) (l : Locals) : Role×Option Tick :=
  let r := {r with roleTimerSorts:=r.roleTimerSorts.map (fun sorts => l.deleteTimers.foldl List.erase sorts)}
  match (orders.intervals.visit l.addTimers.keys).flatMap (fun interval => (l.addTimers.lookup interval).getD []) with
  | [] => ended (if (r.roleTimers.elim true (fun table => table.keys.isEmpty)) then r.clear else r) l
  | info::rest => (r,some (.adding l info rest))

-- The time stamps still to come. Where the tables are gone, `roleTimers[rid][timeStamp]`
-- raises and the tick is over.
def walk (r : Role) (l : Locals) : List Int → Role×Option Tick
  | [] => finish orders r l
  | timeStamp::left =>
    if l.now < timeStamp then walk r l left
    else match r.roleTimers with
    | none => ended r l
    | some table =>
      match table.lookup timeStamp with
      | none => walk r l left
      | some bucket =>
        match nextTimer bucket.infos (orders.keys.visit bucket.infos.keys) with
        | some found => call r l left timeStamp bucket.id found
        | none => walk (r.drop timeStamp) (passed r l timeStamp) left

def run (r : Role) : Role×Option Tick :=
  match r.roleTimers,r.roleTimerSorts with
  | some table,some sorts => walk orders r ⟨r.now,∅,[],Role.indexes table (fun timeStamp _ _ => timeStamp ≤ r.now)⟩ sorts
  | _,_ => (r,none)

def resume (r : Role) : Tick → Role×Option Tick
  | .calling l left timeStamp bucket keys _ info =>
    let l := addAgain l info
    match nextTimer (r.content timeStamp bucket) keys with
    | some found => call r l left timeStamp bucket found
    | none => walk orders (r.drop timeStamp) (passed r l timeStamp) left
  | .adding l info rest =>
    let r := r.addTimer info.interval info.interval info.isLogoutDelete (some info.origin)
    match rest with
    | [] => ended r l
    | info::rest => (r,some (.adding l info rest))

end run

end OriginGame.RoleTimerLogic
