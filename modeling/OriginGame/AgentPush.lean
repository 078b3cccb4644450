import OriginGame.Runs

namespace OriginGame.AgentPush
variable {M : Type}

-- Enum.LoginState
inductive LoginState where
  | prelogin | ok | afk
  deriving DecidableEq

-- resp.content of a dispatch: pushed messages and answers to requests.
inductive Content (M : Type) where
  | pushed (msg : M)
  | answer (body : String)
  deriving DecidableEq

def pushedOf : List (Content M) → List M
  | [] => []
  | .pushed msg::rest => msg::pushedOf rest
  | .answer _::rest => pushedOf rest

-- msgDispatch while the request of one raw message runs, with those still to come.
structure Dispatch (M : Type) where
  left : Nat
  content : List (Content M)
  deriving DecidableEq

-- afk waits until the session is not busy, and afterwards for RoleLogic:onRoleAfk.
inductive Afk where
  | busyWait (onlyClean : Bool)
  | roleAfk
  deriving DecidableEq

-- AgentNames[username] until it is logged out. `requests` are the batches waiting for its
-- lock. What was accepted into pushlist and what was handed to the client is kept beside it.
structure State (M : Type) where
  state : LoginState
  online : Bool
  busy : Bool
  fd : Option Nat
  pushlist : List M
  dispatch : Option (Dispatch M)
  requests : List Nat
  afks : List Afk
  accepted : List M
  handed : List M
  deriving DecidableEq

-- response.login
def login : State M := ⟨.prelogin,false,false,none,[],none,[],[],[],[]⟩

inductive Event (M : Type) where
  -- accept.push, and response.push that may be told to send now
  | push (msg : M) (sendNow cache skipOnline : Bool)
  -- the push timer
  | work
  | request (messages : Nat)
  -- The lock lets the next batch in; its first message may be one that raises.
  | start (raises : Bool)
  -- The request in process returns. Packing the answer, or reading the next message, may raise.
  | reply (answer : Option String) (raises : Bool)
  | auth (fd : Nat)
  | afk (fd : Nat) (forceAfk onlyClean : Bool)
  | afkOn (index : Nat)
  -- the end of onRolelogin
  | online

def PushMsgTimerWorker (s : State M) (sendNow : Bool) : State M :=
  if s.state = .ok ∧ (s.busy = false ∨ sendNow = true) then {s with handed:=s.handed++s.pushlist, pushlist:=[]}
  else s

-- SetPushMsg
def addPushMsg (s : State M) (msg : M) : State M := {s with pushlist:=s.pushlist++[msg], accepted:=s.accepted++[msg]}

def push (s : State M) (msg : M) (sendNow cache skipOnline : Bool) : State M :=
  if !skipOnline && !s.online then s
  else if s.state ≠ .ok ∧ !cache then s
  else
    let s := addPushMsg s msg
    if sendNow then PushMsgTimerWorker s true else s

-- The end of msgDispatch, where the response goes back to the gate.
def respond (s : State M) (content : List (Content M)) : State M :=
  {s with busy:=false, dispatch:=none, handed:=s.handed++pushedOf content}

def start (s : State M) (raises : Bool) : State M :=
  match s.requests,s.dispatch with
  | messages::rest,none =>
    let s := {s with requests:=rest}
    if s.state ≠ .ok then s
    else
      let s := {s with busy:=true}
      match messages with
      | 0 => respond s []
      | left+1 => if raises then s else {s with dispatch:=some ⟨left,[]⟩}
  | _,_ => s

def reply (s : State M) (answer : Option String) (raises : Bool) : State M :=
  match s.dispatch with
  | none => s
  | some d =>
    -- Off line: nothing is answered, and busy stays.
    if s.state ≠ .ok then {s with dispatch:=none}
    else
      let content := d.content++s.pushlist.map .pushed++(answer.map .answer).toList
      let s := {s with pushlist:=[]}
      if raises then {s with dispatch:=none}
      else match d.left with
      | 0 => respond s content
      | left+1 => {s with dispatch:=some ⟨left,content⟩}

def enterAfk (s : State M) (onlyClean : Bool) : State M × Option Afk :=
  let s := {s with state:=.afk}
  if s.online && !onlyClean then (s,some .roleAfk) else ({s with online:=false},none)

def afk (s : State M) (fd : Nat) (forceAfk onlyClean : Bool) : State M :=
  if s.fd = some fd ∧ s.state = .ok then
    if forceAfk then
      let (s,next) := enterAfk s onlyClean
      {s with afks:=next.toList++s.afks}
    else {s with afks:=.busyWait onlyClean::s.afks}
  else s

def afkOn (s : State M) (index : Nat) : State M :=
  match s.afks[index]? with
  | none => s
  | some (.busyWait onlyClean) =>
    let (s,next) := enterAfk s onlyClean
    {s with afks:=s.afks.take index++next.toList++s.afks.drop (index+1)}
  | some .roleAfk => {s with online:=false, afks:=s.afks.eraseIdx index}

def next (s : State M) : Event M → State M
  | .push msg sendNow cache skipOnline => push s msg sendNow cache skipOnline
  | .work => PushMsgTimerWorker s false
  | .request messages => {s with requests:=s.requests++[messages]}
  | .start raises => start s raises
  | .reply answer raises => reply s answer raises
  | .auth fd => {s with fd:=some fd, state:=.ok}
  | .afk fd forceAfk onlyClean => afk s fd forceAfk onlyClean
  | .afkOn index => afkOn s index
  | .online => {s with online:=true}

def Step (s : State M) (event : Event M) (t : State M) : Prop := t = next s event

-- Messages that a dispatch has taken out of pushlist and not handed over yet.
def taken (s : State M) : List M := (s.dispatch.map (fun d => pushedOf d.content)).getD []

-- A request ends while the session is OK, none raises, and nothing is sent at once past
-- messages a dispatch has taken.
def Allow (s : State M) : Event M → Prop
  | .push _ true _ skipOnline => (skipOnline || s.online) = true → s.state = .ok → taken s = []
  | .start raises => raises = false
  | .reply _ raises => s.state = .ok ∧ raises = false
  | _ => True

instance (s : State M) : (event : Event M) → Decidable (Allow s event)
  | .push _ sendNow _ skipOnline => match sendNow with
    | true => inferInstanceAs (Decidable ((skipOnline || s.online) = true → s.state = .ok → taken s = []))
    | false => isTrue trivial
  | .start raises => inferInstanceAs (Decidable (raises = false))
  | .reply _ raises => inferInstanceAs (Decidable (s.state = .ok ∧ raises = false))
  | .work | .request _ | .auth _ | .afk _ _ _ | .afkOn _ | .online => isTrue trivial

-- Every message accepted has been handed over, is taken or waits, once and in its place, and
-- nothing gates the push timer but a dispatch that runs.
structure Pushes (s : State M) : Prop where
  account : s.accepted = s.handed++taken s++s.pushlist
  gate : s.busy = s.dispatch.isSome

theorem pushedOf_append (first second : List (Content M)) : pushedOf (first++second) = pushedOf first++pushedOf second := by
  induction first with
  | nil => rfl
  | cons c rest ih =>
    cases c with
    | pushed msg => exact congrArg (msg::·) ih
    | answer => exact ih

theorem pushedOf_map (msgs : List M) : pushedOf (msgs.map .pushed) = msgs := by
  induction msgs with
  | nil => rfl
  | cons msg rest ih => exact congrArg (msg::·) ih

theorem pushedOf_answer (answer : Option String) : pushedOf (answer.map (Content.answer (M:=M))).toList = [] := by
  cases answer <;> rfl

theorem taken_none {s : State M} (idle : s.dispatch = none) : taken s = [] := by
  rw [taken,idle]
  rfl

theorem taken_some {s : State M} (running : s.dispatch = some d) : taken s = pushedOf d.content := by
  rw [taken,running]
  rfl

theorem Pushes.idle {s : State M} (pushes : Pushes s) (quiet : s.busy = false) : taken s = [] := by
  refine taken_none ?_
  have gate := pushes.gate
  rw [quiet] at gate
  exact Option.not_isSome_iff_eq_none.mp (Bool.eq_false_iff.mp gate.symm)

-- What the worker hands over comes after all that was accepted before it, unless a dispatch
-- still holds some.
theorem worker_keeps {s : State M} (pushes : Pushes s) (sendNow : Bool) (empty : sendNow = true → s.state = .ok → taken s = []) :
    Pushes (PushMsgTimerWorker s sendNow) := by
  unfold PushMsgTimerWorker
  split
  next sends =>
    obtain ⟨ok,open_⟩ := sends
    refine ⟨?_,pushes.gate⟩
    have nothing : taken s = [] := by
      rcases open_ with quiet | now
      · exact pushes.idle quiet
      · exact empty now ok
    change s.accepted = s.handed++s.pushlist++taken s++[]
    rw [pushes.account,nothing,List.append_nil,List.append_nil,List.append_nil]
  · exact pushes

theorem push_keeps {s : State M} (pushes : Pushes s) (msg : M) (sendNow cache skipOnline : Bool)
    (allowed : Allow s (.push msg sendNow cache skipOnline)) : Pushes (push s msg sendNow cache skipOnline) := by
  have added : Pushes (addPushMsg s msg) := by
    refine ⟨?_,pushes.gate⟩
    change s.accepted++[msg] = s.handed++taken s++(s.pushlist++[msg])
    rw [pushes.account,List.append_assoc]
  unfold push
  split
  · exact pushes
  next here =>
    split
    · exact pushes
    · dsimp only
      split
      next now =>
        subst now
        have told : (skipOnline || s.online) = true := by
          revert here
          cases skipOnline <;> cases s.online <;> decide
        exact worker_keeps added true (fun _ ok => allowed told ok)
      · exact added

theorem respond_keeps {s : State M} (content : List (Content M)) (account : s.accepted = s.handed++pushedOf content++s.pushlist) :
    Pushes (respond s content) := by
  refine ⟨?_,rfl⟩
  change s.accepted = s.handed++pushedOf content++[]++s.pushlist
  rw [account,List.append_nil]

theorem start_keeps {s : State M} (pushes : Pushes s) (raises : Bool) (allowed : Allow s (.start raises)) : Pushes (start s raises) := by
  have fine : raises = false := allowed
  subst fine
  unfold start
  split
  next messages rest _ idle =>
    have account := pushes.account
    rw [taken_none idle] at account
    dsimp only
    split
    · exact ⟨pushes.account,pushes.gate⟩
    · split
      · exact respond_keeps [] account
      · exact ⟨account,rfl⟩
  · exact pushes

theorem reply_keeps {s : State M} (pushes : Pushes s) (answer : Option String) (raises : Bool) (allowed : Allow s (.reply answer raises)) :
    Pushes (reply s answer raises) := by
  obtain ⟨ok,fine⟩ := allowed
  subst fine
  unfold reply
  split
  · exact pushes
  next d running =>
    rw [if_neg (not_not.mpr ok)]
    dsimp only
    have account : s.accepted = s.handed++pushedOf (d.content++s.pushlist.map .pushed++(answer.map .answer).toList)++[] := by
      rw [pushes.account,taken_some running,pushedOf_append,pushedOf_append,pushedOf_map,pushedOf_answer]
      simp only [List.append_assoc,List.append_nil]
    have gate := pushes.gate
    rw [running] at gate
    rw [if_neg Bool.false_ne_true]
    split
    · exact respond_keeps _ account
    · exact ⟨account,gate⟩

-- Going afk touches neither the messages nor the dispatch.
theorem enterAfk_keeps {s : State M} (pushes : Pushes s) (onlyClean : Bool) : Pushes (enterAfk s onlyClean).1 := by
  unfold enterAfk
  dsimp only
  split
  · exact ⟨pushes.account,pushes.gate⟩
  · exact ⟨pushes.account,pushes.gate⟩

theorem afk_keeps {s : State M} (pushes : Pushes s) (fd : Nat) (forceAfk onlyClean : Bool) : Pushes (afk s fd forceAfk onlyClean) := by
  have away := enterAfk_keeps pushes onlyClean
  unfold afk
  split
  · split
    · exact ⟨away.account,away.gate⟩
    · exact ⟨pushes.account,pushes.gate⟩
  · exact pushes

theorem afkOn_keeps {s : State M} (pushes : Pushes s) (index : Nat) : Pushes (afkOn s index) := by
  unfold afkOn
  split
  · exact pushes
  next onlyClean _ =>
    have away := enterAfk_keeps pushes onlyClean
    exact ⟨away.account,away.gate⟩
  · exact ⟨pushes.account,pushes.gate⟩

theorem next_keeps {s : State M} (pushes : Pushes s) (event : Event M) (allowed : Allow s event) : Pushes (next s event) := by
  cases event with
  | push msg sendNow cache skipOnline => exact push_keeps pushes msg sendNow cache skipOnline allowed
  | work => exact worker_keeps pushes false nofun
  | request => exact ⟨pushes.account,pushes.gate⟩
  | start raises => exact start_keeps pushes raises allowed
  | reply answer raises => exact reply_keeps pushes answer raises allowed
  | auth => exact ⟨pushes.account,pushes.gate⟩
  | afk fd forceAfk onlyClean => exact afk_keeps pushes fd forceAfk onlyClean
  | afkOn index => exact afkOn_keeps pushes index
  | online => exact ⟨pushes.account,pushes.gate⟩

-- Without a dispatch the next round of the push timer hands everything over.
theorem worker_drains {s : State M} (pushes : Pushes s) (idle : s.dispatch = none) (ok : s.state = .ok) :
    (next s .work).pushlist = [] ∧ (next s .work).handed = s.accepted := by
  have quiet : s.busy = false := by
    rw [pushes.gate,idle]
    rfl
  change (PushMsgTimerWorker s false).pushlist = [] ∧ (PushMsgTimerWorker s false).handed = s.accepted
  unfold PushMsgTimerWorker
  rw [if_pos ⟨ok,.inl quiet⟩]
  refine ⟨rfl,?_⟩
  rw [pushes.account,taken_none idle,List.append_nil]

theorem pushes_kept (path : Runs (Guarded Step Allow) (login : State M) events s) :
    s.accepted = s.handed++taken s++s.pushlist ∧
      (s.dispatch = none → s.state = .ok → (next s .work).pushlist = [] ∧ (next s .work).handed = s.accepted) := by
  have start : Pushes (login : State M) := ⟨rfl,rfl⟩
  have pushes : Pushes s := by
    refine Runs.invariant (fun s event t pushes step => ?_) path start
    obtain ⟨done,allowed⟩ := step
    cases done
    exact next_keeps pushes event allowed
  exact ⟨pushes.account,worker_drains pushes⟩

def entered : List (Event Nat) := [.auth 1,.online,.request 2,.start false,.push 5 false false false,.reply (some "first") false]

theorem answered_kept : ∃ s : State Nat, s.handed = [5] ∧ s.accepted = s.handed++taken s++s.pushlist := by
  have path : Runs (Guarded Step Allow) login (entered++[Event.reply none false]) ((entered++[Event.reply none false]).foldl next login) :=
    Runs.foldl_guarded (by decide)
  exact ⟨_,by decide,(pushes_kept path).1⟩

-- The session goes afk in the middle of a batch: what the dispatch took is lost, and after
-- the next authentication the push timer stays gated. Sending at once overtakes what a
-- dispatch holds.
theorem pushes_lost :
    (∃ events : List (Event Nat), ∃ s, Runs Step login events s ∧ s.state = .ok ∧ s.dispatch = none ∧
      s.accepted = [5,6] ∧ s.handed = [] ∧ s.pushlist = [6] ∧ next s .work = s) ∧
    ∃ events : List (Event Nat), ∃ s, Runs Step login events s ∧ s.accepted = [5,6] ∧ s.handed = [6,5] := by
  constructor
  · exact ⟨_,_,Runs.foldl next login (entered++[.afk 1 true false,.reply none false,.auth 2,.push 6 false false true]),by decide⟩
  · exact ⟨_,_,Runs.foldl next login (entered++[.push 6 true false false,.reply none false]),by decide⟩

end OriginGame.AgentPush
