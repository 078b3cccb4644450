import OriginGame.LuaTable
import OriginGame.Queue

namespace OriginGame.RallyMgr

structure JoinRally where
  arrivalTime : Nat
  objectIndex : Nat
  deriving DecidableEq, Repr

structure RallyTeam where
  rallyRid : Nat
  rallyTargetIndex : Nat
  rallyReadyTime : Nat
  rallyWaitTime : Nat
  rallyMarchTime : Nat
  rallyObjectIndex : Nat
  rallyArmy : Table Nat Nat
  rallyWaitArmyInfo : Table Nat JoinRally
  -- The reinforceArmyIndex of each.
  rallyReinforce : Table Nat Nat

-- No fields of the source: what was done with a team so far.
structure History where
  guildId : Nat
  armyIndex : Nat
  joined : Nat
  reinforced : Nat
  accepted : List (Nat × Nat)
  released : List (Nat × Nat)
  merged : Table Nat Nat
  departing : Bool
  dissolving : Bool
  disbanded : Bool

-- A team is a reference, for handlers go on using one that is no longer registered.
structure State where
  teams : Nat → RallyTeam
  history : Nat → History
  made : Nat
  rallyTeamInfo : Table (Nat × Nat) Nat
  -- By target for newRallyTeam, by leader for joinRallyTeam.
  rallyLock : Queues
  -- getArmySoldierCount of a role's army.
  soldiers : Nat → Nat → Nat

namespace State

def modify (team : Nat) (change : RallyTeam → RallyTeam) (s : State) : State :=
  {s with teams:=Function.update s.teams team (change (s.teams team))}

def note (team : Nat) (change : History → History) (s : State) : State :=
  {s with history:=Function.update s.history team (change (s.history team))}

@[simp] theorem modify_self (s : State) (team : Nat) (change : RallyTeam → RallyTeam) :
    (s.modify team change).teams team = change (s.teams team) := Function.update_self ..

theorem modify_other (s : State) (change : RallyTeam → RallyTeam) (differs : other ≠ team) :
    (s.modify team change).teams other = s.teams other := Function.update_of_ne differs ..

@[simp] theorem modify_history (s : State) (team : Nat) (change : RallyTeam → RallyTeam) : (s.modify team change).history = s.history := rfl

@[simp] theorem note_teams (s : State) (team : Nat) (change : History → History) : (s.note team change).teams = s.teams := rfl

@[simp] theorem note_self (s : State) (team : Nat) (change : History → History) :
    (s.note team change).history team = change (s.history team) := Function.update_self ..

theorem note_other (s : State) (change : History → History) (differs : other ≠ team) :
    (s.note team change).history other = s.history other := Function.update_of_ne differs ..

def lock (key ticket : Nat) (s : State) : State := {s with rallyLock:=s.rallyLock.lock key ticket}

def unlock (key : Nat) (s : State) : State := {s with rallyLock:=s.rallyLock.unlock key}

def clear (guildId rid : Nat) (s : State) : State := {s with rallyTeamInfo:=s.rallyTeamInfo.erase (guildId,rid)}

def createArmy (rid armyIndex count : Nat) (s : State) : State :=
  {s with soldiers:=Function.update s.soldiers rid (Function.update (s.soldiers rid) armyIndex count)}

def empty : State :=
  ⟨fun _ => ⟨0,0,0,0,0,0,∅,∅,∅⟩,fun _ => ⟨0,0,0,0,[],[],∅,false,false,false⟩,0,∅,fun _ => [],fun _ _ => 0⟩

end State

structure Launch where
  rid : Nat
  guildId : Nat
  targetIndex : Nat
  deriving DecidableEq, Repr

structure Join where
  guildId : Nat
  rid : Nat
  rallyRid : Nat
  armyIndex : Option Nat
  soldierSum : Nat
  deriving DecidableEq, Repr

structure Reinforce where
  rid : Nat
  reinforceRid : Nat
  armyIndex : Nat
  deriving DecidableEq, Repr

structure Disband where
  guildId : Nat
  rid : Nat
  endExit : Bool
  deriving DecidableEq, Repr

-- The three requests that take one member out.
inductive ExitKind where
  | forceExitRallyTeam
  | repatriationRallyArmy
  | cacleJoinRally
  deriving DecidableEq, Repr

structure Exit where
  kind : ExitKind
  rid : Nat
  exitRid : Nat
  now : Nat
  deriving DecidableEq, Repr

structure Visit where
  guildId : Nat
  rallyRid : Nat
  now : Nat
  deriving DecidableEq, Repr

-- getRallyArmyCount on its way: since is what had been admitted when it began.
structure Count where
  team : Nat
  since : Nat × Nat
  seen : List Nat
  sum : Nat
  deriving DecidableEq, Repr

inductive LaunchAt where
  | queued
  | sameGuild
  | army
  | announce
  deriving DecidableEq, Repr

inductive JoinAt where
  | queued
  | max (team : Nat)
  | count (count : Count) (member armyIndex : Nat)
  | march (team : Nat) (since : Nat × Nat)
  | announce (team arrivalTime : Nat)
  deriving DecidableEq, Repr

inductive ReinforceAt where
  | guild
  | army (guildId : Nat)
  | max (guildId team armyCount : Nat) (battleing : Bool)
  | count (guildId armyCount : Nat) (battleing : Bool) (count : Count) (member armyIndex : Nat)
  | exitBattle (guildId team armyCount : Nat) (since : Nat × Nat)
  | notify
  deriving DecidableEq, Repr

inductive DisbandAt where
  | warn (team rallyObjectIndex : Nat)
  | exitBattle
  | refund (team : Nat) (seen : List Nat) (exitRid armyIndex : Nat)
  | leave (team : Nat) (seen : List Nat) (exitRid exitArmyIndex armyIndex : Nat)
  | notify (team : Nat)
  | counter (team : Nat) (targets : List Nat)
  deriving DecidableEq, Repr

inductive ExitAt where
  | guild
  | refund (guildId team : Nat)
  | leave (guildId team armyIndex : Nat)
  | sync (guildId : Nat)
  deriving DecidableEq, Repr

inductive VisitAt where
  | alone (team : Nat)
  | merge (team : Nat) (seen : List Nat) (merged : Table Nat Nat) (member armyIndex : Nat)
  | enterMap (team : Nat) (merged : Table Nat Nat)
  | sync
  deriving DecidableEq

inductive Task where
  | launch (call : Launch) (point : LaunchAt)
  | join (call : Join) (point : JoinAt)
  | reinforce (call : Reinforce) (point : ReinforceAt)
  | disband (call : Disband) (point : DisbandAt)
  | exit (call : Exit) (point : ExitAt)
  | visit (call : Visit) (point : VisitAt)
  deriving DecidableEq

inductive Request where
  | newRallyTeam (call : Launch)
  | joinRallyTeam (call : Join)
  | reinforceArrivalCallback (call : Reinforce)
  | disbandRallyArmy (call : Disband)
  | exitRallyTeam (call : Exit)
  | dispatchRallyTimer (call : Visit)
  -- No request: an army loses soldiers elsewhere.
  | armyLoses (rid armyIndex count : Nat)
  deriving DecidableEq, Repr

-- What the inner requests of a wait bring back; every point reads the fields it asked for.
structure Answer where
  raises : Bool
  holds : Bool
  guildId : Nat
  armyIndex : Option Nat
  arrivalTime : Option Nat
  readyTime : Nat
  objectIndex : Nat
  targets : List Nat
  deriving DecidableEq, Repr

abbrev Outcome := State × Option Task

section Handlers
variable (order : Order Nat) (getRallyArmyMax : Nat → Nat)

-- skynet.queue: the body starts when the thread is first.
def wake (key ticket : Nat) (body : State → Outcome) (queued : Task) (s : State) : Outcome :=
  if s.rallyLock.Inside key ticket then body s else (s,some queued)

-- The next key of a pairs loop over rallyArmy: other handlers may have taken entries out.
def nextMember (seen : List Nat) (rallyArmy : Table Nat Nat) : Option (Nat × Nat) :=
  ((order.visit rallyArmy.keys).find? (fun member => member ∉ seen)).bind (fun member =>
    (rallyArmy.lookup member).map (fun armyIndex => (member,armyIndex)))

theorem nextMember_some {order : Order Nat} (found : nextMember order seen rallyArmy = some (member,armyIndex)) :
    rallyArmy.lookup member = some armyIndex := by
  obtain ⟨key,_,there⟩ := Option.bind_eq_some_iff.mp found
  obtain ⟨value,value_at,same⟩ := Option.map_eq_some_iff.mp there
  cases same
  exact value_at

theorem nextMember_none {order : Order Nat} (ended : nextMember order seen rallyArmy = none) (there : v ∈ rallyArmy.lookup k) : k ∈ seen := by
  by_contra unseen
  have key : k ∈ order.visit rallyArmy.keys := Table.visit_of_found there
  have found : ((order.visit rallyArmy.keys).find? (fun member => member ∉ seen)).isSome = true :=
    List.find?_isSome.mpr ⟨k,key,decide_eq_true unseen⟩
  obtain ⟨member,picked⟩ := Option.isSome_iff_exists.mp found
  have listed : member ∈ rallyArmy.keys := order.mem_visit.mp (List.mem_of_find?_eq_some picked)
  obtain ⟨armyIndex,at_member⟩ := Table.lookup_of_mem listed
  rw [nextMember,picked,Option.bind_some,at_member] at ended
  cases ended

def since (team : Nat) (s : State) : Nat × Nat := ((s.history team).joined,(s.history team).reinforced)

def registerTeam (call : Launch) (armyIndex rallyReadyTime : Nat) (s : State) : State :=
  {s with
    teams:=Function.update s.teams s.made ⟨call.rid,call.targetIndex,rallyReadyTime,rallyReadyTime,0,0,AList.insert call.rid armyIndex ∅,∅,∅⟩,
    history:=Function.update s.history s.made ⟨call.guildId,armyIndex,0,0,[],[],∅,false,false,false⟩,
    rallyTeamInfo:=s.rallyTeamInfo.insert (call.guildId,call.rid) s.made,
    made:=s.made+1}

theorem register_teams_made (s : State) : (registerTeam call armyIndex readyTime s).teams s.made =
    ⟨call.rid,call.targetIndex,readyTime,readyTime,0,0,AList.insert call.rid armyIndex ∅,∅,∅⟩ := Function.update_self ..

theorem register_history_made (s : State) : (registerTeam call armyIndex readyTime s).history s.made =
    ⟨call.guildId,armyIndex,0,0,[],[],∅,false,false,false⟩ := Function.update_self ..

theorem register_teams_other (s : State) (differs : team ≠ s.made) :
    (registerTeam call armyIndex readyTime s).teams team = s.teams team := Function.update_of_ne differs ..

theorem register_history_other (s : State) (differs : team ≠ s.made) :
    (registerTeam call armyIndex readyTime s).history team = s.history team := Function.update_of_ne differs ..

def newRallyTeam (call : Launch) (s : State) : Outcome :=
  if (s.rallyTeamInfo.lookup (call.guildId,call.rid)).isSome then (s.unlock call.targetIndex,none)
  else (s,some (.launch call .sameGuild))

def resumeLaunch (answer : Answer) (ticket : Nat) (call : Launch) (point : LaunchAt) (s : State) : Outcome :=
  match point with
  | .queued => wake call.targetIndex ticket (newRallyTeam call) (.launch call .queued) s
  | .sameGuild => if answer.raises || answer.holds then (s.unlock call.targetIndex,none) else (s,some (.launch call .army))
  | .army =>
    match answer.armyIndex with
    | none => (s.unlock call.targetIndex,none)
    -- The army is there; the requests about the target may still raise.
    | some armyIndex =>
      if answer.raises then (s.unlock call.targetIndex,none)
      else (registerTeam call armyIndex answer.readyTime s,some (.launch call .announce))
  | .announce => (s.unlock call.targetIndex,none)

def joinRally (call : Join) (s : State) : Outcome :=
  match s.rallyTeamInfo.lookup (call.guildId,call.rid) with
  | none => (s.unlock call.rid,none)
  | some team =>
    if ((s.teams team).rallyArmy.lookup call.rallyRid).isSome then (s.unlock call.rid,none)
    else (s,some (.join call (.max team)))

-- checkRallyCapacity goes on with the count, and then the test for departure.
def joinCounts (call : Join) (count : Count) (s : State) : Outcome :=
  match nextMember order count.seen (s.teams count.team).rallyArmy with
  | some (member,armyIndex) => (s,some (.join call (.count count member armyIndex)))
  | none =>
    if count.sum+call.soldierSum ≤ getRallyArmyMax count.team ∧ (s.teams count.team).rallyObjectIndex = 0 then
      (s,some (.join call (.march count.team count.since)))
    else (s.unlock call.rid,none)

def RallyTeam.join (rallyRid armyIndex arrivalTime objectIndex : Nat) (info : RallyTeam) : RallyTeam :=
  {info with
    rallyArmy:=info.rallyArmy.insert rallyRid armyIndex,
    rallyWaitArmyInfo:=info.rallyWaitArmyInfo.insert rallyRid ⟨arrivalTime,objectIndex⟩}

def History.join (rallyRid armyIndex : Nat) (past : History) : History :=
  {past with
    joined:=past.joined+1,
    accepted:=(rallyRid,armyIndex)::past.accepted}

def admitJoin (team rallyRid armyIndex arrivalTime objectIndex : Nat) (s : State) : State :=
  (s.modify team (RallyTeam.join rallyRid armyIndex arrivalTime objectIndex)).note team (History.join rallyRid armyIndex)

-- createArmy, when no army was chosen.
def joinCreates (call : Join) (answer : Answer) (s : State) : State :=
  match call.armyIndex,answer.armyIndex with
  | none,some armyIndex => s.createArmy call.rallyRid armyIndex call.soldierSum
  | _,_ => s

def resumeJoin (answer : Answer) (ticket : Nat) (call : Join) (point : JoinAt) (s : State) : Outcome :=
  match point with
  | .queued => wake call.rid ticket (joinRally call) (.join call .queued) s
  | .max team => if answer.raises then (s.unlock call.rid,none) else joinCounts order getRallyArmyMax call ⟨team,since team s,[],0⟩ s
  | .count count member armyIndex =>
    if answer.raises then (s.unlock call.rid,none)
    else joinCounts order getRallyArmyMax call {count with
      seen:=member::count.seen,
      sum:=count.sum+s.soldiers member armyIndex} s
  | .march team _ =>
    let s := joinCreates call answer s
    match call.armyIndex.or answer.armyIndex,answer.arrivalTime with
    | some armyIndex,some arrivalTime =>
      if answer.raises then (s.unlock call.rid,none)
      else (admitJoin team call.rallyRid armyIndex arrivalTime answer.objectIndex s,some (.join call (.announce team arrivalTime)))
    | _,_ => (s.unlock call.rid,none)
  | .announce team arrivalTime =>
    if answer.raises then (s.unlock call.rid,none)
    else ((s.modify team (fun info => {info with rallyWaitTime:=Nat.max info.rallyWaitTime arrivalTime})).unlock call.rid,none)

def RallyTeam.reinforce (reinforceRid armyIndex : Nat) (info : RallyTeam) : RallyTeam :=
  {info with
    rallyArmy:=info.rallyArmy.insert reinforceRid armyIndex,
    rallyReinforce:=info.rallyReinforce.erase reinforceRid}

def admitReinforce (team reinforceRid armyIndex : Nat) (s : State) : State :=
  (s.modify team (RallyTeam.reinforce reinforceRid armyIndex)).note team (fun past => {past with reinforced:=past.reinforced+1})

-- The team is looked up again, and indexing nil raises.
def reinforceArrives (call : Reinforce) (guildId : Nat) (s : State) : Outcome :=
  match s.rallyTeamInfo.lookup (guildId,call.rid) with
  | none => (s,none)
  | some team => (admitReinforce team call.reinforceRid call.armyIndex s,some (.reinforce call .notify))

def reinforceCounts (call : Reinforce) (guildId armyCount : Nat) (battleing : Bool) (count : Count) (s : State) : Outcome :=
  match nextMember order count.seen (s.teams count.team).rallyArmy with
  | some (member,armyIndex) => (s,some (.reinforce call (.count guildId armyCount battleing count member armyIndex)))
  | none =>
    if count.sum+armyCount ≤ getRallyArmyMax count.team then
      if battleing then (s,some (.reinforce call (.exitBattle guildId count.team armyCount count.since)))
      else reinforceArrives call guildId s
    else (s,none)

def resumeReinforce (answer : Answer) (call : Reinforce) (point : ReinforceAt) (s : State) : Outcome :=
  if answer.raises then (s,none) else
  match point with
  | .guild =>
    match s.rallyTeamInfo.lookup (answer.guildId,call.rid) with
    | none => (s,none)
    | some team =>
      if ((s.teams team).rallyReinforce.lookup call.reinforceRid).isSome then (s,some (.reinforce call (.army answer.guildId)))
      else (s,none)
  | .army guildId =>
    match s.rallyTeamInfo.lookup (guildId,call.rid) with
    | none => (s,none)
    | some team => (s,some (.reinforce call (.max guildId team (s.soldiers call.reinforceRid call.armyIndex) answer.holds)))
  | .max guildId team armyCount battleing =>
    reinforceCounts order getRallyArmyMax call guildId armyCount battleing ⟨team,since team s,[],0⟩ s
  | .count guildId armyCount battleing count member armyIndex =>
    reinforceCounts order getRallyArmyMax call guildId armyCount battleing {count with
      seen:=member::count.seen,
      sum:=count.sum+s.soldiers member armyIndex} s
  | .exitBattle guildId _ _ _ => reinforceArrives call guildId s
  | .notify => (s,none)

-- The end of exitRallyTeam. The loop sets the waiting time anew for each that still waits.
def RallyTeam.leave (exitRid : Nat) (info : RallyTeam) : RallyTeam :=
  let waits := info.rallyWaitArmyInfo.erase exitRid
  {info with
    rallyArmy:=info.rallyArmy.erase exitRid,
    rallyWaitArmyInfo:=waits,
    rallyWaitTime:=(order.visit waits.keys).foldl (fun time rid =>
      match waits.lookup rid with
      | some join => if join.arrivalTime > info.rallyReadyTime then join.arrivalTime else info.rallyReadyTime
      | none => time) info.rallyWaitTime}

def release (team exitRid armyIndex : Nat) (s : State) : State :=
  s.note team (fun past => {past with released:=(exitRid,armyIndex)::past.released})

def leaveTeam (team exitRid armyIndex : Nat) (s : State) : State :=
  release team exitRid armyIndex (s.modify team (RallyTeam.leave order exitRid))

def disbandRallyArmy (call : Disband) (s : State) : Outcome :=
  match s.rallyTeamInfo.lookup (call.guildId,call.rid) with
  | none => (s,none)
  | some team => (s,some (.disband call (.warn team (s.teams team).rallyObjectIndex)))

def disbandExits (call : Disband) (team : Nat) (seen : List Nat) (s : State) : Outcome :=
  match nextMember order seen (s.teams team).rallyArmy with
  | some (exitRid,armyIndex) => (s,some (.disband call (.refund team seen exitRid armyIndex)))
  | none => (s,some (.disband call (.notify team)))

-- The rallies against this one are disbanded first; each target is compared with the
-- registered team, and indexing nil raises.
def disbandCounters (call : Disband) (team : Nat) : List Nat → State → Outcome
  | [],s => ((s.clear call.guildId call.rid).note team (fun past => {past with disbanded:=true}),none)
  | target::targets,s =>
    match s.rallyTeamInfo.lookup (call.guildId,call.rid) with
    | none => (s,none)
    | some registered =>
      if target = (s.teams registered).rallyObjectIndex then (s,some (.disband call (.counter team targets)))
      else disbandCounters call team targets s

def resumeDisband (answer : Answer) (call : Disband) (point : DisbandAt) (s : State) : Outcome :=
  match point with
  | .warn team rallyObjectIndex =>
    if answer.raises then (s,none)
    -- Leaving the battle disbands the team by itself.
    else if rallyObjectIndex > 0 ∧ answer.holds ∧ !call.endExit then (s,some (.disband call .exitBattle))
    else disbandExits order call team [] (s.note team (fun past => {past with dissolving:=true}))
  | .exitBattle => (s,none)
  | .refund team seen exitRid armyIndex =>
    -- An exit that raises is caught and the army disbanded.
    if answer.raises then disbandExits order call team (exitRid::seen) (release team exitRid armyIndex s)
    else
      match (s.teams team).rallyArmy.lookup exitRid with
      | some listed => (s,some (.disband call (.leave team (exitRid::seen) exitRid armyIndex listed)))
      | none => disbandExits order call team (exitRid::seen) s
  | .leave team seen exitRid exitArmyIndex armyIndex =>
    if answer.raises then disbandExits order call team seen (release team exitRid exitArmyIndex s)
    else disbandExits order call team seen (leaveTeam order team exitRid armyIndex s)
  | .notify team => if answer.raises then (s,none) else disbandCounters call team answer.targets s
  | .counter team targets => if answer.raises then (s,none) else disbandCounters call team targets s

def mayExit (call : Exit) (info : RallyTeam) : Bool :=
  match call.kind with
  | .forceExitRallyTeam => true
  | .repatriationRallyArmy => (info.rallyArmy.lookup call.exitRid).isSome && decide (call.now ≤ info.rallyWaitTime)
  | .cacleJoinRally => (info.rallyWaitArmyInfo.lookup call.exitRid).any (fun join => decide (call.now < join.arrivalTime))

def RallyTeam.rewait (info : RallyTeam) : RallyTeam :=
  {info with rallyWaitTime:=(order.visit info.rallyWaitArmyInfo.keys).foldl (fun time rid =>
    match info.rallyWaitArmyInfo.lookup rid with
    | some join => if time < join.arrivalTime then join.arrivalTime else time
    | none => time) info.rallyReadyTime}

def resumeExit (answer : Answer) (call : Exit) (point : ExitAt) (s : State) : Outcome :=
  if answer.raises then (s,none) else
  match point with
  | .guild =>
    match s.rallyTeamInfo.lookup (answer.guildId,call.rid) with
    | none => (s,none)
    | some team => if mayExit call (s.teams team) then (s,some (.exit call (.refund answer.guildId team))) else (s,none)
  | .refund guildId team =>
    match (s.teams team).rallyArmy.lookup call.exitRid with
    | some armyIndex => (s,some (.exit call (.leave guildId team armyIndex)))
    | none => if call.kind = .repatriationRallyArmy then (s,none) else (s,some (.exit call (.sync guildId)))
  | .leave guildId team armyIndex => (leaveTeam order team call.exitRid armyIndex s,some (.exit call (.sync guildId)))
  | .sync guildId =>
    if call.kind = .forceExitRallyTeam then (s,none)
    else
      match s.rallyTeamInfo.lookup (guildId,call.rid) with
      | none => (s,none)
      | some team => (s.modify team (RallyTeam.rewait order),none)

-- rallyArmyEnterMap, at the loop of cacleRallyArmyCount.
def mergeNext (call : Visit) (team : Nat) (seen : List Nat) (merged : Table Nat Nat) (s : State) : Outcome :=
  match nextMember order seen (s.teams team).rallyArmy with
  | some (member,armyIndex) => (s,some (.visit call (.merge team seen merged member armyIndex)))
  | none => (s,some (.visit call (.enterMap team merged)))

-- What dispatchRallyTimer does at one team.
def visitTeam (call : Visit) (s : State) : Outcome :=
  match s.rallyTeamInfo.lookup (call.guildId,call.rallyRid) with
  | none => (s,none)
  | some team =>
    if (s.teams team).rallyMarchTime = 0 ∧ (s.teams team).rallyWaitTime ≤ call.now then
      if (s.teams team).rallyArmy.keys.length ≤ 1 then
        (s.note team (fun past => {past with dissolving:=true}),some (.visit call (.alone team)))
      else mergeNext order call team [] ∅ (s.note team (fun past => {past with departing:=true}))
    else (s,none)

def resumeVisit (answer : Answer) (call : Visit) (point : VisitAt) (s : State) : Outcome :=
  if answer.raises then (s,none) else
  match point with
  | .alone _ => (s.clear call.guildId call.rallyRid,none)
  | .merge team seen merged member armyIndex =>
    mergeNext order call team (member::seen) (merged.insert member armyIndex) s
  | .enterMap team merged =>
    match answer.arrivalTime with
    -- The team is disbanded by a request of its own.
    | none => (s,some (.visit call .sync))
    | some arrivalTime =>
      let s := s.modify team (fun info => {info with
        rallyMarchTime:=arrivalTime,
        rallyObjectIndex:=answer.objectIndex})
      (s.note team (fun past => {past with merged:=merged}),some (.visit call .sync))
  | .sync => (s,none)

def enter (request : Request) (ticket : Nat) (s : State) : Outcome :=
  match request with
  | .newRallyTeam call => wake call.targetIndex ticket (newRallyTeam call) (.launch call .queued) (s.lock call.targetIndex ticket)
  | .joinRallyTeam call => wake call.rid ticket (joinRally call) (.join call .queued) (s.lock call.rid ticket)
  | .reinforceArrivalCallback call => (s,some (.reinforce call .guild))
  | .disbandRallyArmy call => disbandRallyArmy call s
  | .exitRallyTeam call => (s,some (.exit call .guild))
  | .dispatchRallyTimer call => visitTeam order call s
  | .armyLoses rid armyIndex count => (s.createArmy rid armyIndex (s.soldiers rid armyIndex-count),none)

def resume (answer : Answer) (ticket : Nat) (task : Task) (s : State) : Outcome :=
  match task with
  | .launch call point => resumeLaunch answer ticket call point s
  | .join call point => resumeJoin order getRallyArmyMax answer ticket call point s
  | .reinforce call point => resumeReinforce order getRallyArmyMax answer call point s
  | .disband call point => resumeDisband order answer call point s
  | .exit call point => resumeExit order answer call point s
  | .visit call point => resumeVisit order answer call point s

abbrev Acts := Numbers (enter order) (resume order getRallyArmyMax)

end Handlers
end OriginGame.RallyMgr
