import OriginGame.Handlers
import OriginGame.LuaTable

namespace OriginGame.ResourceCollect

-- A role's army. Roles have positive ids.
structure Key where
  rid : Nat
  armyIndex : Nat
  real : 0 < rid
  deriving DecidableEq

-- What d_army has of an army: its status has COLLECTING, its collectResource is about the
-- node (with the session, which the source does not keep), and its load from the node.
structure Army where
  collecting : Bool
  collectResource : Option Nat
  load : Int

-- `session` numbers the last gathering that began.
structure Node where
  collectRid : Option Nat
  armyIndex : Option Nat
  collectTime : Option Int
  collectSpeed : Option Int
  resourceAmount : Int
  timerId : Option Nat
  session : Nat

structure Timer where
  time : Int
  army : Key
  session : Nat

structure Credit where
  session : Nat
  army : Key
  amount : Int

-- One node, with what the handlers write elsewhere. `listed` says that it is in `resources`;
-- a handler that has it may still have it afterwards. `timers` has those that have neither run
-- nor been deleted. `started`, `credits`, `deducts` and `fired` only say what happened.
structure State where
  now : Int
  listed : Bool
  node : Node
  armies : Table Key Army
  timers : Table Nat Timer
  timerId : Nat
  started : List Key
  credits : List Credit
  deducts : List (Nat×Int)
  fired : List (Nat×Nat)

-- Where a handler waits. What it does between two of these without a request is one step.
inductive Handler where
  -- collectResource: getRoleArmyIndex, getArmyCollectSpeed, setArmy, syncArmy
  | asked (army : Key)
  | speed (army : Key) (session : Nat)
  | taking (army : Key) (session : Nat)
  | taken (army : Key) (session : Nat)
  -- callBackArmy: getArmy
  | recalled (army : Key)
  -- collectFinish: getRole, getArmy, getArmyLoad and what follows it up to setArmy, syncArmy,
  -- armyEnterMap, resourceLeave
  | role (army : Key)
  | army (army : Key) (info : Army)
  | load (army : Key) (info : Army) (session : Nat) (collectNum : Int)
  | paid (credit : Credit) (collectNum : Int)
  | entered (credit : Credit) (collectNum : Int)
  | leaving (credit : Credit)
  -- armyLoadChange: getArmy, getArmyLoad, setArmy
  | changed (army : Key) (info : Army)
  | measured (army : Key) (info : Army)
  | resent (army : Key) (info : Army)
  -- collectSpeedChange: getArmy, then getArmyCollectSpeed, what follows it up to setArmy, syncArmy
  | armies (left : List (Key×Army))
  | compared (army : Key) (info : Army) (left : List (Key×Army))
  | sped (army : Key) (info : Army) (left : List (Key×Army))
  | retimed (army : Key) (info : Army) (left : List (Key×Army))

-- What the other services answer, and what the numbers of the gathering come to.
structure Reply where
  gathered : Int
  load : Int
  speed : Int
  seconds : Int
  enough : Bool
  late : Bool

inductive Request where
  | wait (seconds : Nat)
  | timer (timerId : Nat)
  | collectResource (army : Key)
  | callBackArmy (army : Key)
  -- by the army, or by the node
  | armyLoadChange (army : Option Key)
  | collectSpeedChange (order : Order Key) (rid : Nat) (armyIndex : Option Nat)

namespace State

def deleteTimer (s : State) : State := {s with timers:=s.node.timerId.elim s.timers (fun timerId => s.timers.erase timerId)}

-- The field is set only on a node that is still there: else the assignment raises after the
-- timer was made.
def runTimer (s : State) (seconds : Int) (army : Key) (session : Nat) : State :=
  {s with
    timers:=s.timers.insert s.timerId ⟨s.now+seconds,army,session⟩
    timerId:=s.timerId+1
    node:=if s.listed then {s.node with timerId:=some s.timerId} else s.node}

def setArmy (s : State) (army : Key) (change : Army → Army) : State := {s with armies:=Table.modify s.armies army change}

def free (s : State) : Bool := s.node.collectRid.all (· = 0)

-- The army that the node names.
def named (s : State) : Option Key :=
  if s.listed then s.node.collectRid.bind (fun rid => s.node.armyIndex.bind (fun armyIndex =>
    if real : 0 < rid then some ⟨rid,armyIndex,real⟩ else none))
  else none

end State

-- Without the node, collectFinish raises at its first use and nothing has happened yet.
def collectFinish (s : State) (army : Key) : Option Handler := if s.listed then some (.role army) else none

def nextArmy (s : State) : List (Key×Army) → Option Handler
  | [] => none
  | (army,info)::left => if s.listed then some (.compared army info left) else none

def collectResource (s : State) (army : Key) : State×Option Handler :=
  if s.listed ∧ s.free then
    ({s with
      node:={s.node with collectRid:=some army.rid, collectTime:=some s.now, armyIndex:=some army.armyIndex, session:=s.started.length}
      started:=s.started++[army]},some (.speed army s.started.length))
  else (s,none)

def enter : Request → State → State×Option Handler
  | .wait seconds,s => ({s with now:=s.now+seconds},none)
  | .timer timerId,s =>
    match s.timers.lookup timerId with
    | none => (s,none)
    | some timer =>
      if s.now < timer.time then (s,none)
      else ({s with timers:=s.timers.erase timerId, fired:=(timer.session,s.node.session)::s.fired},collectFinish s timer.army)
  | .collectResource army,s => (s,some (.asked army))
  | .callBackArmy army,s =>
    match s.armies.lookup army with
    | none => (s,none)
    | some info => (s,if info.collectResource.isSome then some (.recalled army) else none)
  | .armyLoadChange army,s =>
    match army.or s.named with
    | none => (s,none)
    | some key =>
      match s.armies.lookup key with
      | none => (s,none)
      | some info => (s,if info.collecting ∧ (army.isNone ∨ info.collectResource.isSome) then some (.changed key info) else none)
  | .collectSpeedChange order rid armyIndex,s =>
    let left := (order.visit s.armies.keys).filterMap (fun key => (s.armies.lookup key).bind (fun info =>
      if key.rid = rid ∧ armyIndex.all (· = key.armyIndex) ∧ info.collecting ∧ info.collectResource.isSome then some (key,info) else none))
    (s,if left.isEmpty then none else some (.armies left))

def resume (reply : Reply) : Handler → State → State×Option Handler
  | .asked army,s => collectResource s army
  | .speed army session,s =>
    if s.listed then ({s with node:={s.node with collectSpeed:=some reply.speed}},some (.taking army session)) else (s,none)
  | .taking army session,s =>
    if s.listed then (s.setArmy army (fun info => {info with collecting:=true, collectResource:=some session}),some (.taken army session)) else (s,none)
  | .taken army session,s => (s.runTimer reply.seconds army session,none)
  | .recalled army,s => (s,collectFinish s army)
  | .role army,s => (s,(s.armies.lookup army).map (fun info => .army army info))
  | .army army info,s =>
    if s.node.collectTime.isSome ∧ s.node.collectSpeed.isSome then
      (s,some (.load army info s.node.session (if s.node.resourceAmount < reply.gathered then s.node.resourceAmount else reply.gathered)))
    else (s,none)
  | .load army info session collectNum,s =>
    let collectAmount := if collectNum < reply.load then collectNum else reply.load
    let credit := Credit.mk session army collectAmount
    ({s.setArmy army (fun _ => {collecting:=false, collectResource:=none, load:=if 0 < collectAmount then info.load+collectAmount else info.load}) with
      credits:=credit::s.credits},some (.paid credit collectNum))
  | .paid credit collectNum,s => (s.deleteTimer,some (.entered credit collectNum))
  | .entered credit collectNum,s =>
    if s.node.resourceAmount ≤ collectNum ∨ reply.late then (s,some (.leaving credit))
    else if s.listed then
      ({s.deleteTimer with
        node:={s.node with
          collectRid:=none, collectTime:=none, collectSpeed:=none, armyIndex:=none, resourceAmount:=s.node.resourceAmount-credit.amount, timerId:=none}
        deducts:=(credit.session,credit.amount)::s.deducts},none)
    else (s,none)
  | .leaving _,s => ({s with listed:=false},none)
  | .changed army info,s => (s,if s.listed then some (.measured army info) else none)
  | .measured army info,s =>
    if s.node.collectTime.isNone ∨ s.node.collectSpeed.isNone then (s,none)
    else if reply.enough then (s,collectFinish s army)
    else
      let started := s.deleteTimer.runTimer reply.seconds army (info.collectResource.getD s.node.session)
      (started,if s.listed then some (.resent army info) else none)
  | .resent army info,s => (s.setArmy army (fun held => {held with collectResource:=info.collectResource}),none)
  | .armies left,s => (s,nextArmy s left)
  | .compared army info left,s =>
    if s.node.collectSpeed = some reply.speed then (s,nextArmy s left)
    else if s.listed then
      let deleted := {s.deleteTimer with node:={s.node with collectSpeed:=some reply.speed}}
      (deleted,if s.node.collectTime.isSome then some (.sped army info left) else none)
    else (s.deleteTimer,none)
  | .sped army info left,s => (s.setArmy army (fun _ => info),some (.retimed army info left))
  | .retimed army info left,s =>
    let started := s.runTimer reply.seconds army (info.collectResource.getD s.node.session)
    (started,if s.listed then nextArmy started left else none)

-- Nobody gathers at the node.
def initial (now resourceAmount : Int) (loads : Table Key Int) : State :=
  ⟨now,true,⟨none,none,none,none,resourceAmount,none,0⟩,Table.mapKeyed (fun _ load => ⟨false,none,load⟩) loads,∅,0,[],[],[],[]⟩

-- A handler works on the node, but for collectResource before it has taken it.
def Handler.works : Handler → Bool
  | .asked _ => false
  | _ => true

end OriginGame.ResourceCollect
