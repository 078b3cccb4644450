import OriginGame.Handlers
import OriginGame.LuaTable

namespace OriginGame.GameGate

structure Config where
  expired_number : Nat
  order : Order Nat

-- p in the source: { return_fd , response, version, index }
structure Entry where
  fd : Option Nat
  response : Option String
  version : Option Nat
  index : Option Nat
  -- Beside the source: the version of the connection it was last sent over, and whether
  -- request_handler returned normally.
  sent : Nat
  returned : Bool
  deriving DecidableEq

-- One user that is online. A suspended do_request holds on to its entry, so the cache
-- names entries by where they are kept. `connection` has the fds that lead to this user,
-- with the version they were authenticated with, which the code does not keep.
structure State where
  version : Nat
  index : Nat
  response : Table Nat Nat
  entries : Table Nat Entry
  nextEntry : Nat
  connection : Table Nat Nat
  -- What went out: the replies with their fd, and the sessions rejected as a conflict.
  sends : List (Nat×String)
  conflicts : List Nat

-- server.login
def login : State := ⟨0,0,∅,∅,0,∅,[],[]⟩

-- do_request while request_handler runs
structure Waiting where
  session : Nat
  entry : Nat
  deriving DecidableEq

inductive Request where
  | auth (fd idx : Nat)
  | disconnect (fd : Nat)
  | request (fd session : Nat)
  deriving DecidableEq

-- do_auth with the right secret
def do_auth (s : State) (fd idx : Nat) : State :=
  if idx ≤ s.version then s
  else {s with version:=idx, connection:=s.connection.insert fd idx}

structure Retiring where
  response : Table Nat Nat
  entries : Table Nat Entry
  max : Nat

def retireOne (expired_number : Nat) (r : Retiring) (k id : Nat) : Retiring :=
  match r.entries.lookup id with
  | none => r
  | some p =>
    if p.fd.isSome then r
    else
      -- Only an entry that is done gets here, and its index is set.
      let index := p.index.getD 0
      if index < expired_number then {r with response:=r.response.erase k}
      else {r with entries:=r.entries.insert id {p with index:=some (index-expired_number)}, max:=Nat.max r.max (index-expired_number)}

def retire_response (cfg : Config) (s : State) : State :=
  if cfg.expired_number*2 ≤ s.index then
    let r := Table.forEach cfg.order s.response (retireOne cfg.expired_number) ⟨s.response,s.entries,0⟩
    {s with response:=r.response, entries:=r.entries, index:=r.max+1}
  else s

-- The end of do_request. The return fd may have changed meanwhile.
def finish (cfg : Config) (s : State) (id : Nat) (p : Entry) : State :=
  let sends := match p.fd,p.response with
    | some fd,some reply => if (s.connection.lookup fd).isSome then (fd,reply)::s.sends else s.sends
    | _,_ => s.sends
  retire_response cfg {s with index:=s.index+1, sends, entries:=s.entries.insert id {p with fd:=none}}

def start (s : State) (fd session sent : Nat) : State × Option Waiting :=
  ({s with
    entries:=s.entries.insert s.nextEntry ⟨some fd,none,none,none,sent,false⟩
    response:=s.response.insert session s.nextEntry
    nextEntry:=s.nextEntry+1},some ⟨session,s.nextEntry⟩)

def cached (s : State) (session : Nat) : Option (Nat×Entry) :=
  (s.response.lookup session).bind (fun id => (s.entries.lookup id).map (fun p => (id,p)))

def do_request (cfg : Config) (s : State) (fd session : Nat) : State × Option Waiting :=
  match s.connection.lookup fd with
  | none => (s,none)
  | some sent =>
    match cached s session with
    | none => start s fd session sent
    | some (id,p) =>
      if p.version = some s.version then
        let s := {s with response:=s.response.erase session}
        if p.response.isNone then ({s with conflicts:=session::s.conflicts},none) else start s fd session sent
      else
        let p := {p with fd:=some fd, version:=some s.version, index:=some s.index, sent}
        if p.response.isNone then ({s with entries:=s.entries.insert id p},none) else (finish cfg s id p,none)

def enter (cfg : Config) : Request → State → State × Option Waiting
  | .auth fd idx,s => (do_auth s fd idx,none)
  | .disconnect fd,s => ({s with connection:=s.connection.erase fd},none)
  | .request fd session,s => do_request cfg s fd session

-- The answer is what request_handler returned, the empty reply for nil, or none when it raised.
def resume (cfg : Config) (answer : Option String) (w : Waiting) (s : State) : State × Option Waiting :=
  match s.entries.lookup w.entry with
  | none => (s,none)
  | some p =>
    let response := match answer with
      | none => none
      | some reply => if reply.isEmpty then p.response else some reply
    (finish cfg s w.entry {p with response, version:=some s.version, index:=some s.index, returned:=answer.isSome},none)

abbrev Gate := Service State Waiting
abbrev GateEvent := Event Request Waiting (Option String)

def Step (cfg : Config) : Gate → GateEvent → Gate → Prop := Interleaves (enter cfg) (resume cfg)

end OriginGame.GameGate
