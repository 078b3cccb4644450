import OriginGame.Handlers
import OriginGame.LuaTable

namespace OriginGame.AgentLogin

inductive LoginState where
  | prelogin | ok | afk
  deriving DecidableEq

-- AgentNames[username], as far as logins and logouts look at it.
structure Session where
  state : LoginState
  fd : Option Nat
  online : Bool
  rid : Option Nat

-- agentRidHandles[rid] of AgentMgr. The handle is that of the one agent.
structure RidHandle where
  ref : Int
  username : Nat

-- One uid: its sessions in the agent, AgentUids[uid], what AgentMgr has of its roles, and the
-- roles whose data are loaded. A username is the number the gate gives it, never twice.
structure State where
  internalId : Nat
  agentNames : Table Nat Session
  agentUids : Table Nat Nat
  agentRidHandles : Table Nat RidHandle
  loaded : Table Nat Unit

namespace State

def setSession (s : State) (username : Nat) (change : Session → Session) : State :=
  {s with agentNames:=Table.modify s.agentNames username change}

def addRid (s : State) (rid username : Nat) : State :=
  {s with agentRidHandles:=s.agentRidHandles.insert rid (match s.agentRidHandles.lookup rid with
    | some handle => ⟨if handle.username = username then handle.ref+1 else 1,username⟩
    | none => ⟨1,username⟩)}

def delRid (s : State) (rid username : Nat) : State :=
  match s.agentRidHandles.lookup rid with
  | none => s
  | some handle =>
    if handle.username ≠ username then s
    else if handle.ref-1 ≤ 0 then {s with agentRidHandles:=s.agentRidHandles.erase rid}
    else {s with agentRidHandles:=s.agentRidHandles.insert rid {handle with ref:=handle.ref-1}}

end State

-- The locals of logout.
structure Leaving where
  username : Nat
  rid : Option Nat
  force : Bool
  deriving DecidableEq

-- Where logout waits: for RoleLogic:onRoleLogout, which unloads the role, for AgentMgr to
-- delete the role and for its answer, and for the gate.
inductive Stage where
  | unload (rid : Nat)
  | delRid (rid : Nat)
  | deleted (rid : Nat)
  | gate
  deriving DecidableEq

-- From the uid's table on.
def leaveUid (s : State) (l : Leaving) : State×Option (Leaving×Stage) :=
  let s := {s with agentUids:=l.rid.elim s.agentUids (fun rid => s.agentUids.erase rid)}
  if l.force then ({s with agentNames:=s.agentNames.erase l.username},none) else (s,some (l,.gate))

def logout (s : State) (username : Nat) (keeprole force : Bool) : State×Option (Leaving×Stage) :=
  match s.agentNames.lookup username with
  | none => (s,none)
  | some session =>
    match session.rid with
    | none => leaveUid s ⟨username,none,force⟩
    | some rid => (s,some (⟨username,some rid,force⟩,if keeprole then .delRid rid else .unload rid))

def logoutOn (s : State) (l : Leaving) : Stage → State×Option (Leaving×Stage)
  | .unload rid => ({s with loaded:=s.loaded.erase rid},some (l,.delRid rid))
  | .delRid rid => (s.delRid rid l.username,some (l,.deleted rid))
  | .deleted _ => leaveUid s l
  | .gate => ({s with agentNames:=s.agentNames.erase l.username},none)

-- Where a handler waits. onRolelogin: for RoleLogic:onRoleAfk of the old session, for its
-- logout to begin and to end, for AgentMgr, for RoleLogic:onRoleLogin, which loads the role
-- first, and for the pushes.
inductive Handler where
  | logout (l : Leaving) (stage : Stage)
  | roleAfk (username rid : Nat) (keeprole : Bool) (oldUserName : Nat)
  | kick (username rid : Nat) (keeprole : Bool) (oldUserName : Nat)
  | kicking (username rid : Nat) (keeprole : Bool) (l : Leaving) (stage : Stage)
  | addRid (username rid : Nat) (keeprole : Bool)
  | roleLogin (username rid : Nat) (keeprole : Bool)
  | entering (username rid : Nat)
  | pushed (username : Nat)
  -- afk: while the session is busy, and for RoleLogic:onRoleAfk
  | busyWait (username : Nat) (onlyClean : Bool)
  | afk (username : Nat)
  deriving DecidableEq

inductive Request where
  | login
  | auth (username fd : Nat)
  | afk (username fd : Nat) (busy onlyClean : Bool)
  | logout (username : Nat)
  | onRolelogin (username rid : Nat)

-- The end of afk, where the session is the one the handler began with.
def goAfk (s : State) (username : Nat) (onlyClean : Bool) : State×Option Handler :=
  let online := (s.agentNames.lookup username).any Session.online
  if online ∧ !onlyClean then (s.setSession username (fun session => {session with state:=.afk}),some (.afk username))
  else (s.setSession username (fun session => {session with state:=.afk, online:=false}),none)

def kicked (username rid : Nat) (keeprole : Bool) : State×Option (Leaving×Stage) → State×Option Handler
  | (s,none) => (s,some (.addRid username rid keeprole))
  | (s,some (l,stage)) => (s,some (.kicking username rid keeprole l stage))

-- A session that the uid's table names and that is gone raises.
def onRolelogin (s : State) (username rid : Nat) : Option Handler :=
  match s.agentNames.lookup username with
  | none => none
  | some session =>
    if session.state ≠ .ok then none
    else match s.agentUids.lookup rid with
    | none => some (.addRid username rid false)
    | some oldUserName =>
      match s.agentNames.lookup oldUserName with
      | none => none
      | some old =>
        let keeprole : Bool := old.rid = some rid
        if oldUserName = username then some (.addRid username rid keeprole)
        else if old.state = .ok ∧ old.online then some (.roleAfk username rid keeprole oldUserName)
        else some (.kick username rid keeprole oldUserName)

def enter : Request → State → State×Option Handler
  | .login,s =>
    let internalId := s.internalId+1
    if (s.agentNames.lookup internalId).isSome then ({s with internalId},none)
    else ({s with internalId, agentNames:=s.agentNames.insert internalId ⟨.prelogin,none,false,none⟩},none)
  | .auth username fd,s => (s.setSession username (fun session => {session with state:=.ok, fd:=some fd}),none)
  | .afk username fd busy onlyClean,s =>
    match s.agentNames.lookup username with
    | none => (s,none)
    | some session =>
      if session.fd = some fd ∧ session.state = .ok then
        if busy then (s,some (.busyWait username onlyClean)) else goAfk s username onlyClean
      else (s,none)
  | .logout username,s => ((logout s username false false).1,(logout s username false false).2.map (fun waits => .logout waits.1 waits.2))
  | .onRolelogin username rid,s => (s,onRolelogin s username rid)

-- The answers carry nothing that matters here.
def resume (_ : Unit) : Handler → State → State×Option Handler
  | .logout l stage,s => ((logoutOn s l stage).1,(logoutOn s l stage).2.map (fun waits => .logout waits.1 waits.2))
  | .roleAfk username rid keeprole oldUserName,s => (s,some (.kick username rid keeprole oldUserName))
  | .kick username rid keeprole oldUserName,s => kicked username rid keeprole (logout s oldUserName keeprole false)
  | .kicking username rid keeprole l stage,s => kicked username rid keeprole (logoutOn s l stage)
  | .addRid username rid keeprole,s => (s.addRid rid username,some (.roleLogin username rid keeprole))
  | .roleLogin username rid keeprole,s =>
    (if keeprole then s else {s with loaded:=s.loaded.insert rid ()},some (.entering username rid))
  | .entering username rid,s =>
    ({s.setSession username (fun session => {session with rid:=some rid}) with agentUids:=s.agentUids.insert rid username},some (.pushed username))
  | .pushed username,s => (s.setSession username (fun session => {session with online:=true}),none)
  | .busyWait username onlyClean,s => goAfk s username onlyClean
  | .afk username,s => (s.setSession username (fun session => {session with online:=false}),none)

def initial : State := ⟨0,∅,∅,∅,∅⟩

-- The sessions and roles that a logout or an onRolelogin is about.
inductive Item where
  | session (username : Nat)
  | role (rid : Nat)
  deriving DecidableEq

def Handler.items : Handler → List Item
  | .logout l _ => .session l.username::(l.rid.map Item.role).toList
  | .roleAfk username rid _ _ | .kick username rid _ _ | .kicking username rid _ _ _ | .addRid username rid _ | .roleLogin username rid _
  | .entering username rid => [.session username,.role rid]
  | .pushed _ | .busyWait _ _ | .afk _ => []

end OriginGame.AgentLogin
