import OriginGame.SkynetMq
import OriginGame.SkynetNames

namespace OriginGame.Skynet

structure SkynetMessage (D : Type) where
  source : Nat
  session : Int
  type : Nat
  data : Option D

-- ctx->queue is none until it is stored.
structure Context where
  handle : Nat
  queue : Option Nat
  ref : Nat
  init : Bool

-- The memory of the threads. A context and the queue made for it have the same number; what is freed is none.
-- Beside it, what each queue was pushed, and what was taken out of it to be dispatched and to be dropped.
structure Shared (D N : Type) where
  storage : HandleStorage Nat N
  contexts : Nat → Option Context
  queues : Nat → Option (MessageQueue (SkynetMessage D))
  globalMq : List Nat
  next : Nat
  pushed : Nat → List (SkynetMessage D)
  dispatched : Nat → List (SkynetMessage D)
  dropped : Nat → List (SkynetMessage D)

-- Where a thread is in a function, between two of its critical sections. Threads are stacks of them.
inductive Frame (D N : Type) where
  -- the threads of main, timer, socket and monitor
  | outside
  -- `thread_worker`, and `skynet_context_message_dispatch` behind its head
  | worker (weight : Int) (q : Option Nat)
  | loop (weight : Int) (q ctx i n : Nat)
  | taken (weight : Int) (q ctx i n : Nat) (msg : SkynetMessage D)
  | handling (weight : Int) (q ctx i n : Nat) (msg : SkynetMessage D)
  | ending (weight : Int) (q ctx : Nat)
  -- `skynet_globalmq_push`
  | globalPush (q : Nat)
  -- `skynet_context_push`
  | push (handle : Nat) (msg : SkynetMessage D)
  | pushing (ctx : Nat) (msg : SkynetMessage D)
  -- `skynet_context_release`, and `delete_context`
  | release (ctx : Nat)
  | releasing (ctx : Nat)
  | markRelease (ctx : Nat)
  | free (ctx : Nat)
  -- `skynet_handle_retire`
  | retire (handle : Nat)
  -- `skynet_context_new`, whose caller reads the handle of what it returns
  | launch
  | creating (ctx handle : Nat)
  | initing (ctx : Nat)
  | settling (ctx q : Nat)
  | launched (ctx q : Nat)
  | published (ctx : Nat)
  | retireFailed (handle q : Nat)
  -- `skynet_mq_release`, and `_drop_queue`
  | mqRelease (q handle : Nat)
  | draining (q handle : Nat)
  -- `skynet_handle_namehandle`
  | naming (handle : Nat) (name : N)
  -- `skynet_context_endless`
  | endless (handle : Nat)

-- What a thread outside, or a callback of a module, does next. To proceed is to return, and to fail is to return that `init` failed.
inductive Action (D N : Type) where
  | proceed
  | fail
  | send (destination : Nat) (msg : SkynetMessage D)
  | kill (handle : Nat)
  | launch
  | name (handle : Nat) (name : N)
  | endless (handle : Nat)

section source
variable {D N : Type} [Ord N]

namespace Shared

def contextHandle (s : Shared D N) (ctx : Nat) : Option Nat := (s.contexts ctx).map Context.handle

def putContext (s : Shared D N) (ctx : Nat) (context : Option Context) : Shared D N := {s with contexts:=Function.update s.contexts ctx context}

def putQueue (s : Shared D N) (q : Nat) (mq : Option (MessageQueue (SkynetMessage D))) : Shared D N := {s with queues:=Function.update s.queues q mq}

def journalPushed (s : Shared D N) (q : Nat) (msg : SkynetMessage D) : Shared D N := {s with pushed:=Function.update s.pushed q (s.pushed q++[msg])}

def journalDispatched (s : Shared D N) (q : Nat) (msg : SkynetMessage D) : Shared D N :=
  {s with dispatched:=Function.update s.dispatched q (s.dispatched q++[msg])}

def journalDropped (s : Shared D N) (q : Nat) (msg : SkynetMessage D) : Shared D N := {s with dropped:=Function.update s.dropped q (s.dropped q++[msg])}

-- A queue is linked in once: the assertion on `next`, which misses the last one. The link is written into the last one.
def globalmqPush (s : Shared D N) (q : Nat) : Option (Shared D N) := do
  let _ ← s.queues q
  if q ∈ s.globalMq then none
  let linked := {s with globalMq:=s.globalMq++[q]}
  match s.globalMq.getLast? with
  | none => some linked
  | some tail => (s.queues tail).map (fun _ => linked)

def globalmqPop (s : Shared D N) : Option (Option Nat × Shared D N) := match s.globalMq with
  | [] => some (none,s)
  | q::rest => do
    let _ ← s.queues q
    some (some q,{s with globalMq:=rest})

def handleGrab (s : Shared D N) (handle : Nat) : Option (Option Nat × Shared D N) := do
  match ← handleFind s.contextHandle handle s.storage with
  | none => some (none,s)
  | some ctx =>
    let context ← s.contexts ctx
    some (some ctx,s.putContext ctx (some {context with ref:=context.ref+1}))

-- `ATOM_DEC(&ctx->ref) == 0`
def contextRelease (s : Shared D N) (ctx : Nat) : Option (Bool × Shared D N) := do
  let context ← s.contexts ctx
  match context.ref with
  | 0 => none
  | ref+1 => some (ref == 0,s.putContext ctx (some {context with ref:=ref}))

def contextRetire (s : Shared D N) (handle : Nat) : Option (Option Nat × Shared D N) := do
  let (ctx,storage) ← handleRetire s.contextHandle handle s.storage
  some (ctx,{s with storage:=storage})

end Shared

def contextPush (s : Shared D N) (ctx : Nat) (msg : SkynetMessage D) : Option (Shared D N) := do
  let context ← s.contexts ctx
  let q ← context.queue
  let mq ← s.queues q
  let (mq,wake) ← mqPush mq msg
  let s := (s.putQueue q (some mq)).journalPushed q msg
  if wake then s.globalmqPush q else some s

def markRelease (s : Shared D N) (ctx : Nat) : Option (Shared D N) := do
  let context ← s.contexts ctx
  let q ← context.queue
  let mq ← s.queues q
  if mq.release then none
  let s := s.putQueue q (some {mq with release:=true})
  if mq.inGlobal then some s else s.globalmqPush q

def contextNew (s : Shared D N) : Option (Nat × Nat × Shared D N) := do
  let ctx := s.next
  let s := s.putContext ctx (some ⟨0,none,2,false⟩)
  let (handle,storage) ← handleRegister s.contextHandle ctx s.storage
  some (ctx,handle,{s with storage:=storage, next:=ctx+1})

-- `drop_message`
def dropMessage (handle : Nat) (msg : SkynetMessage D) : Option (List (Frame D N)) :=
  if handle = 0 then none
  else if msg.source = 0 then some []
  else some [.push msg.source ⟨handle,0,7,none⟩]

-- What is called from outside or from a callback, and where it returns to.
def call (action : Action D N) (back : Frame D N) : List (Frame D N) := match action with
  | .proceed | .fail => [back]
  | .send destination msg => if destination = 0 then [back] else [.push destination msg,back]
  | .kill handle => if handle = 0 then [back] else [.retire handle,back]
  | .launch => [.launch,back]
  | .name handle name => if handle = 0 then [back] else [.naming handle name,back]
  | .endless handle => if handle = 0 then [back] else [.endless handle,back]

-- `skynet_context_message_dispatch`
def dispatch (s : Shared D N) (weight : Int) : Option Nat → Option (Shared D N × List (Frame D N))
  | none => do
    let (q,s) ← s.globalmqPop
    some (s,[.worker weight q])
  | some q => do
    let mq ← s.queues q
    match ← s.handleGrab mq.handle with
    | (none,s) => some (s,[.mqRelease q mq.handle,.worker weight none])
    | (some ctx,s) => some (s,[.loop weight q ctx 0 1])

def dispatchLoop (s : Shared D N) (weight : Int) (q ctx i n : Nat) : Option (Shared D N × List (Frame D N)) := do
  let mq ← s.queues q
  match ← mqPop mq with
  | (none,mq) => some (s.putQueue q (some mq),[.release ctx,.worker weight none])
  | (some msg,mq) => some ((s.putQueue q (some mq)).journalDispatched q msg,[.taken weight q ctx i n msg])

def dispatchMessage (s : Shared D N) (weight : Int) (q ctx i n : Nat) (msg : SkynetMessage D) : Option (Shared D N × List (Frame D N)) := do
  let mq ← s.queues q
  let n := if i = 0 ∧ 0 ≤ weight then mqLength mq>>>weight.toNat else n
  let s := s.putQueue q (some (mqOverload mq).2)
  let context ← s.contexts ctx
  if context.init then some (s,[.handling weight q ctx i n msg]) else none

def dispatchEnd (s : Shared D N) (weight : Int) (q ctx : Nat) : Option (Shared D N × List (Frame D N)) := do
  let context ← s.contexts ctx
  if context.queue ≠ some q then none
  match ← s.globalmqPop with
  | (none,s) => some (s,[.release ctx,.worker weight (some q)])
  | (some nq,s) => some (s,[.globalPush q,.release ctx,.worker weight (some nq)])

def mqRelease (s : Shared D N) (q handle : Nat) : Option (Shared D N × List (Frame D N)) := do
  let mq ← s.queues q
  if mq.release then some (s,[.draining q handle])
  else
    let s ← s.globalmqPush q
    some (s,[])

-- One turn of the loop of `_drop_queue`; behind the last the queue is freed.
def dropQueue (s : Shared D N) (q handle : Nat) : Option (Shared D N × List (Frame D N)) := do
  let mq ← s.queues q
  match ← mqPop mq with
  | (some msg,mq) => do
    let sends ← dropMessage handle msg
    some ((s.putQueue q (some mq)).journalDropped q msg,sends++[.draining q handle])
  | (none,_) => if q ∈ s.globalMq then none else some (s.putQueue q none,[])

-- What a thread does from one of these places to the next, and what it has to do then. It is none where the source
-- reads or frees memory that is freed already, or where an assertion fails.
def advance (s : Shared D N) : Frame D N → Action D N → Option (Shared D N × List (Frame D N))
  | .outside,action => some (s,call action .outside)
  | .worker weight q,_ => dispatch s weight q
  | .loop weight q ctx i n,_ => dispatchLoop s weight q ctx i n
  | .taken weight q ctx i n msg,_ => dispatchMessage s weight q ctx i n msg
  | .handling weight q ctx i n _,.proceed => some (s,[if i+1 < n then .loop weight q ctx (i+1) n else .ending weight q ctx])
  | .handling weight q ctx i n msg,action => some (s,call action (.handling weight q ctx i n msg))
  | .ending weight q ctx,_ => dispatchEnd s weight q ctx
  | .globalPush q,_ => do
    let s ← s.globalmqPush q
    some (s,[])
  | .push handle msg,_ => do
    match ← s.handleGrab handle with
    | (none,s) => some (s,[])
    | (some ctx,s) => some (s,[.pushing ctx msg])
  | .pushing ctx msg,_ => do
    let s ← contextPush s ctx msg
    some (s,[.release ctx])
  | .release ctx,_ => do
    let (last,s) ← s.contextRelease ctx
    some (s,if last then [.releasing ctx] else [])
  | .releasing ctx,.proceed => do
    let _ ← s.contexts ctx
    some (s,[.markRelease ctx])
  | .releasing ctx,action => some (s,call action (.releasing ctx))
  | .markRelease ctx,_ => do
    let s ← markRelease s ctx
    some (s,[.free ctx])
  | .free ctx,_ => do
    let _ ← s.contexts ctx
    some (s.putContext ctx none,[])
  | .retire handle,_ => do
    let (ctx,s) ← s.contextRetire handle
    some (s,ctx.toList.map .release)
  | .launch,_ => do
    let (ctx,handle,s) ← contextNew s
    some (s,[.creating ctx handle])
  | .creating ctx handle,_ => do
    let context ← s.contexts ctx
    some ((s.putContext ctx (some {context with handle:=handle, queue:=some ctx})).putQueue ctx (some (mqCreate handle)),[.initing ctx])
  | .initing ctx,.proceed => do
    let context ← s.contexts ctx
    let q ← context.queue
    some (s,[.settling ctx q])
  | .initing ctx,.fail => do
    let context ← s.contexts ctx
    let q ← context.queue
    some (s,[.release ctx,.retireFailed context.handle q])
  | .initing ctx,action => some (s,call action (.initing ctx))
  | .settling ctx q,_ => do
    let (last,s) ← s.contextRelease ctx
    some (s,if last then [.releasing ctx,.globalPush q] else [.launched ctx q])
  | .launched ctx q,_ => do
    let context ← s.contexts ctx
    some (s.putContext ctx (some {context with init:=true}),[.globalPush q,.published ctx])
  | .published ctx,_ => do
    let _ ← s.contexts ctx
    some (s,[])
  | .retireFailed handle q,_ => do
    let (ctx,s) ← s.contextRetire handle
    some (s,ctx.toList.map .release++[.mqRelease q handle])
  | .mqRelease q handle,_ => mqRelease s q handle
  | .draining q handle,_ => dropQueue s q handle
  | .naming handle name,_ => do
    let (_,names) ← insertName s.storage.name name handle
    some ({s with storage:={s.storage with name:=names}},[])
  | .endless handle,_ => do
    match ← s.handleGrab handle with
    | (none,s) => some (s,[])
    | (some ctx,s) => some (s,[.release ctx])

structure System (D N : Type) where
  shared : Shared D N
  threads : List (List (Frame D N))

-- `skynet_start`: a thread has the weight of its worker, or none.
def start (harbor : Nat) (weights : List (Option Int)) : System D N :=
  ⟨⟨handleInit harbor,fun _ => none,fun _ => none,[],0,fun _ => [],fun _ => [],fun _ => []⟩,
    weights.map (fun weight => match weight with
      | none => [.outside]
      | some weight => [.worker weight none])⟩

-- Any thread may be the next one.
def step (s : System D N) (label : Nat × Action D N) : Option (System D N) := do
  match ← s.threads[label.1]? with
  | [] => none
  | frame::rest =>
    let (shared,frames) ← advance s.shared frame label.2
    some ⟨shared,s.threads.set label.1 (frames++rest)⟩

-- `skynet_context_new` goes on with a context it has given up its reference to.
def Frame.awaits : Frame D N → Option Nat
  | .launched ctx _ | .published ctx => some ctx
  | _ => none

-- What the source does not see to by itself: that handles do not turn over at 24 bits, that the table of services is not doubled while
-- another thread has not stored the handle it was given, and that a service is not freed under the thread that makes it.
def Careful (s : System D N) (label : Nat × Action D N) : Prop := match s.threads[label.1]? with
  | some (.launch::_) => s.shared.storage.handleIndex+s.shared.storage.slot.length*2 ≤ 2^24 ∧
      (s.shared.storage.Full → ∀ ctx, s.shared.storage.Registered ctx → s.shared.contextHandle ctx ≠ some 0)
  | some (.free ctx::_) => ∀ stack ∈ s.threads, ∀ frame ∈ stack, frame.awaits ≠ some ctx
  | _ => True

end source
end OriginGame.Skynet
