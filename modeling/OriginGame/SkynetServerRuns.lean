import OriginGame.Runs
import OriginGame.SkynetAdvance

namespace OriginGame.Skynet

def System.frames (s : System D N) : Multiset (Frame D N) := s.threads.flatten

-- What a thread goes round in.
def Frame.base : Frame D N → Bool
  | .outside | .worker _ _ | .loop .. | .taken .. | .handling .. | .ending .. => true
  | _ => false

section system
variable {D N : Type} [Ord N] {s t : System D N} {label : Nat × Action D N} {thread : Nat} {frame : Frame D N} {stack rest : List (Frame D N)}

structure Good (s : System D N) : Prop where
  sound : ∃ given, Invariant s.shared given s.frames
  based : ∀ stack ∈ s.threads, ∃ last, stack.getLast? = some last ∧ last.base = true

omit [Ord N] in
-- The frames of one thread, and those of the others.
theorem frames_split (here : s.threads[thread]? = some stack) :
    ∃ others : Multiset (Frame D N), s.frames = ↑stack+others ∧ (∀ one ∈ others, ∃ stack ∈ s.threads, one ∈ stack) ∧
      ∀ shared later, System.frames ⟨shared,s.threads.set thread later⟩ = ↑later+others := by
  obtain ⟨inside,same⟩ := List.getElem?_eq_some_iff.mp here
  have parts : ∀ later : List (Frame D N), (((s.threads.set thread later).flatten : List (Frame D N)) : Multiset (Frame D N)) =
      ↑later+↑((s.threads.take thread).flatten++(s.threads.drop (thread+1)).flatten) := by
    intro later
    rw [List.set_eq_take_append_cons_drop,if_pos inside,List.flatten_append,List.flatten_cons,← Multiset.coe_add,← Multiset.coe_add,← Multiset.coe_add]
    exact add_left_comm ..
  refine ⟨↑((s.threads.take thread).flatten++(s.threads.drop (thread+1)).flatten),?_,fun one there => ?_,fun shared later => parts later⟩
  · rw [← parts stack,← same,List.set_getElem_self]
    rfl
  · rw [Multiset.mem_coe,List.mem_append,List.mem_flatten,List.mem_flatten] at there
    rcases there with ⟨stack,before,inside⟩ | ⟨stack,behind,inside⟩
    · exact ⟨stack,List.mem_of_mem_take before,inside⟩
    · exact ⟨stack,List.mem_of_mem_drop behind,inside⟩

omit [Ord N] in
theorem foldr_append (frames rest : List (Frame D N)) (others : Multiset (Frame D N)) :
    frames.foldr Multiset.cons ((rest : Multiset (Frame D N))+others) = ((frames++rest : List (Frame D N)) : Multiset (Frame D N))+others := by
  induction frames with
  | nil => rfl
  | cons frame frames ih => rw [List.foldr_cons,ih,List.cons_append,← Multiset.cons_coe,Multiset.cons_add]

omit [Ord N] in
theorem call_last (action : Action D N) (back : Frame D N) : (call action back).getLast? = some back := by
  rcases call_cases action back with same | ⟨called,same,_⟩ <;> rw [same] <;> rfl

-- The bottom of a thread is kept.
theorem advance_base {shared next : Shared D N} {frames : List (Frame D N)} {action : Action D N} (ran : advance shared frame action = some (next,frames))
    (base : frame.base = true) : ∃ last, frames.getLast? = some last ∧ last.base = true := by
  cases frame with
  | outside =>
    cases ran
    exact ⟨_,call_last ..,rfl⟩
  | worker weight q =>
    cases q with
    | none =>
      obtain ⟨⟨q,_⟩,_,same⟩ := Option.bind_eq_some_iff.mp ran
      cases same
      exact ⟨_,rfl,rfl⟩
    | some q =>
      obtain ⟨mq,_,ran⟩ := Option.bind_eq_some_iff.mp ran
      obtain ⟨⟨found,_⟩,_,same⟩ := Option.bind_eq_some_iff.mp ran
      cases found <;> cases same <;> exact ⟨_,rfl,rfl⟩
  | loop weight q ctx i n =>
    obtain ⟨mq,_,ran⟩ := Option.bind_eq_some_iff.mp ran
    obtain ⟨⟨found,_⟩,_,same⟩ := Option.bind_eq_some_iff.mp ran
    cases found <;> cases same <;> exact ⟨_,rfl,rfl⟩
  | taken weight q ctx i n msg =>
    obtain ⟨mq,_,ran⟩ := Option.bind_eq_some_iff.mp ran
    obtain ⟨context,_,same⟩ := Option.bind_eq_some_iff.mp ran
    split at same
    next =>
      cases same
      exact ⟨_,rfl,rfl⟩
    next => cases same
  | handling weight q ctx i n msg =>
    cases action with
    | proceed =>
      cases ran
      refine ⟨_,rfl,?_⟩
      split <;> rfl
    | _ =>
      cases ran
      exact ⟨_,call_last ..,rfl⟩
  | ending weight q ctx =>
    obtain ⟨context,_,ran⟩ := Option.bind_eq_some_iff.mp ran
    split at ran
    next => cases ran
    next =>
      obtain ⟨⟨found,_⟩,_,same⟩ := Option.bind_eq_some_iff.mp ran
      cases found <;> cases same <;> exact ⟨_,rfl,rfl⟩
  | _ => cases base

omit [Ord N] in
theorem careful_watched {others : Multiset (Frame D N)} {action : Action D N} (listed : s.threads[thread]? = some (frame::rest))
    (each : ∀ one ∈ others, ∃ stack ∈ s.threads, one ∈ stack) (careful : Careful s (thread,action)) : Watched s.shared frame (↑rest+others) := by
  unfold Careful at careful
  rw [listed] at careful
  cases frame with
  | launch => exact careful
  | free ctx =>
    intro one there
    rcases Multiset.mem_add.mp there with own | other
    · exact careful _ (List.mem_of_getElem? listed) one (List.mem_cons_of_mem _ own)
    · obtain ⟨stack,other_thread,inside⟩ := each one other
      exact careful stack other_thread one inside
  | _ => trivial

variable [Std.TransOrd N] [Std.LawfulEqOrd N]

theorem step_good (good : Good s) (moved : step s label = some t) (careful : Careful s label) : Good t := by
  obtain ⟨thread,action⟩ := label
  obtain ⟨stack,listed,ran⟩ := Option.bind_eq_some_iff.mp moved
  cases stack with
  | nil => cases ran
  | cons frame rest =>
    obtain ⟨⟨shared,frames⟩,advanced,same⟩ := Option.bind_eq_some_iff.mp ran
    cases same
    obtain ⟨given,inv⟩ := good.sound
    obtain ⟨others,all,each,later⟩ := frames_split listed
    rw [all,← Multiset.cons_coe,Multiset.cons_add] at inv
    have watched := careful_watched listed each careful
    obtain ⟨_,_,again,given',kept⟩ := advance_kept inv watched action
    cases advanced.symm.trans again
    refine ⟨⟨given',?_⟩,fun stack there => ?_⟩
    · rw [foldr_append] at kept
      rw [later]
      exact kept
    · rcases List.mem_or_eq_of_mem_set there with old | rfl
      · exact good.based stack old
      · obtain ⟨last,bottom,base⟩ := good.based _ (List.mem_of_getElem? listed)
        rw [List.getLast?_append]
        cases rest with
        | nil =>
          cases bottom
          exact advance_base advanced base
        | cons next rest =>
          rw [List.getLast?_cons_cons] at bottom
          exact ⟨last,by rw [bottom]; rfl,base⟩

omit [Ord N] [Std.TransOrd N] [Std.LawfulEqOrd N] in
theorem tally_none (frames : Multiset (Frame D N)) (none_there : ∀ frame ∈ frames, frame.roles = []) (role : Role) (c : Nat) : tally frames role c = 0 := by
  unfold tally
  rw [Multiset.map_congr rfl (fun frame there => by rw [none_there frame there,List.count_nil]),Multiset.map_const',Multiset.sum_replicate,nsmul_zero]

omit [Std.TransOrd N] [Std.LawfulEqOrd N] in
theorem start_good (harbor : Nat) (weights : List (Option Int)) : Good (start harbor weights : System D N) := by
  have idle : ∀ stack ∈ (start harbor weights : System D N).threads, stack = [.outside] ∨ ∃ weight, stack = [.worker weight none] := by
    intro stack there
    obtain ⟨weight,_,rfl⟩ := List.mem_map.mp there
    cases weight with
    | none => exact .inl rfl
    | some weight => exact .inr ⟨weight,rfl⟩
  have frames : ∀ frame ∈ (start harbor weights : System D N).frames, frame = .outside ∨ ∃ weight, frame = .worker weight none := by
    intro frame there
    obtain ⟨stack,listed,inside⟩ := List.mem_flatten.mp there
    rcases idle stack listed with rfl | ⟨weight,rfl⟩
    · exact .inl (List.mem_singleton.mp inside)
    · exact .inr ⟨weight,List.mem_singleton.mp inside⟩
  have none_there := tally_none (start harbor weights : System D N).frames (fun frame there => by
    rcases frames frame there with rfl | ⟨weight,rfl⟩ <;> rfl)
  have unregistered : ∀ c, ¬(start harbor weights : System D N).shared.storage.Registered c := by
    rintro c ⟨i,there⟩
    obtain ⟨low,_,positive,below⟩ := (handleInit_stored harbor (fun _ => 0)).below i c there
    change low < 1 at below
    omega
  refine ⟨⟨fun _ => 0,handleInit_stored harbor _,.nil,fun c impossible => absurd impossible (Nat.not_lt_zero c),fun a impossible => absurd impossible (Nat.not_lt_zero a),
    fun c _ => ⟨rfl,rfl,rfl,rfl,rfl⟩,fun frame there => ?_,fun c => ⟨⟨?_,fun _ => ?_,fun _ impossible => (nomatch impossible)⟩,⟨fun _ => ?_,fun _ impossible => (nomatch impossible)⟩,
      ⟨fun _ impossible => (nomatch impossible),fun _ impossible => (nomatch impossible),fun _ impossible => (nomatch impossible),
        fun _ impossible => (nomatch impossible)⟩⟩⟩,fun stack there => ?_⟩
  · rcases frames frame there with rfl | ⟨weight,rfl⟩ <;> trivial
  · exact Nat.le_of_eq ((none_there .freeing c).trans (none_there .deleting c).symm)
  · exact ⟨unregistered c,none_there .held c,none_there .serving c,none_there .deleting c,none_there .creating c,none_there .window c⟩
  · exact ⟨rfl,none_there .token c,none_there .draining c,rfl⟩
  · rcases idle stack there with rfl | ⟨weight,rfl⟩
    · exact ⟨_,rfl,rfl⟩
    · exact ⟨_,rfl,rfl⟩

def Run (harbor : Nat) (weights : List (Option Int)) (labels : List (Nat × Action D N)) (s : System D N) : Prop :=
  Runs (Guarded (fun s label t => step s label = some t) Careful) (start harbor weights) labels s

variable {harbor : Nat} {weights : List (Option Int)} {labels : List (Nat × Action D N)}

theorem run_good (path : Run harbor weights labels s) : Good s :=
  Runs.invariant (fun _ _ _ good moved => step_good good moved.1 moved.2) path (start_good harbor weights)

-- A service is made and is sent a message, which a worker hands on.
theorem served : ∃ (labels : List (Nat × Action Nat Nat)) (s : System Nat Nat), Run 0 [none,some 0] labels s ∧
    s.threads = [[.outside],[.worker 0 none]] ∧ s.shared.globalMq = [] ∧ s.shared.dispatched 0 = [⟨0,0,0,none⟩] := by
  refine ⟨[(0,.launch),(0,.proceed),(0,.proceed),(0,.proceed),(0,.proceed),(0,.proceed),(0,.proceed),(0,.proceed),(0,.send 1 ⟨0,0,0,none⟩),(0,.proceed),
    (0,.proceed),(0,.proceed),(1,.proceed),(1,.proceed),(1,.proceed),(1,.proceed),(1,.proceed),(1,.proceed),(1,.proceed),(1,.proceed),(1,.proceed),(1,.proceed)],_,
    .more ⟨rfl,trivial⟩ (.more ⟨rfl,?_⟩ (.more ⟨rfl,trivial⟩ (.more ⟨rfl,trivial⟩ (.more ⟨rfl,trivial⟩ (.more ⟨rfl,trivial⟩ (.more ⟨rfl,trivial⟩
    (.more ⟨rfl,trivial⟩ (.more ⟨rfl,trivial⟩ (.more ⟨rfl,trivial⟩ (.more ⟨rfl,trivial⟩ (.more ⟨rfl,trivial⟩ (.more ⟨rfl,trivial⟩ (.more ⟨rfl,trivial⟩
    (.more ⟨rfl,trivial⟩ (.more ⟨rfl,trivial⟩ (.more ⟨rfl,trivial⟩ (.more ⟨rfl,trivial⟩ (.more ⟨rfl,trivial⟩ (.more ⟨rfl,trivial⟩ (.more ⟨rfl,trivial⟩
    (.more ⟨rfl,trivial⟩ .done))))))))))))))))))))),rfl,rfl,rfl⟩
  exact ⟨by decide,fun full => absurd (full 0 (by decide)) (by decide)⟩

-- Without `Careful`: a service is killed, and freed, under the thread that makes it, which goes on to write into it.
theorem freed_while_made : ∃ labels s, Runs (fun s label t => step s label = some t) (start 0 [none,none] : System Nat Nat) labels s ∧
    step s (0,.proceed) = none := by
  refine ⟨[(0,.launch),(0,.proceed),(0,.proceed),(0,.proceed),(0,.proceed),(1,.kill 1),(1,.proceed),(1,.proceed),(1,.proceed),(1,.proceed),(1,.proceed)],_,
    .more rfl (.more rfl (.more rfl (.more rfl (.more rfl (.more rfl (.more rfl (.more rfl (.more rfl (.more rfl (.more rfl .done)))))))))),rfl⟩

-- The code of the module of a service: its init, its callback, its release.
def Frame.runs (ctx : Nat) : Frame D N → Bool
  | .handling _ _ other _ _ _ | .initing other | .releasing other => other == ctx
  | _ => false

-- What is pushed to a service is dispatched in its order, each message once, or waits, or is dropped behind the release of the queue;
-- and a queue in which something waits stands in one place, be it the global queue or a thread.
theorem run_mail (path : Run harbor weights labels s) (q : Nat) :
    (s.shared.queues q = none → s.shared.dispatched q++s.shared.dropped q = s.shared.pushed q) ∧
    ∀ mq, s.shared.queues q = some mq → ∃ waiting, mq.Waits waiting ∧ s.shared.dispatched q++s.shared.dropped q++waiting = s.shared.pushed q ∧
      (mq.release = false → s.shared.dropped q = []) ∧ (waiting ≠ [] → s.shared.globalMq.count q+tally s.frames .token q = 1) := by
  obtain ⟨given,inv⟩ := (run_good path).sound
  have posted := (inv.sound q).posted
  refine ⟨fun gone => (posted.vanished gone).all,fun mq here => ?_⟩
  have held := posted.held mq here
  obtain ⟨waiting,waits,all,rest⟩ := held.waits
  refine ⟨waiting,waits,all,held.dropped,fun some_one => held.alone.trans (if_pos ?_)⟩
  cases out : mq.inGlobal with
  | true => rfl
  | false => exact absurd (rest out) some_one

theorem run_mail_served : ∃ s : System Nat Nat, s.shared.dispatched 0 = [⟨0,0,0,none⟩] ∧
    (s.shared.queues 0 = none → s.shared.dispatched 0++s.shared.dropped 0 = s.shared.pushed 0) := by
  obtain ⟨labels,s,path,_,_,dispatched⟩ := served
  exact ⟨s,dispatched,(run_mail path 0).1⟩

-- A handle that is not 0 is one service, and finding it finds the service as long as it is registered.
theorem run_handles (path : Run harbor weights labels s) {handle : Nat} (some_handle : handle ≠ 0) :
    (∃ found, handleFind s.shared.contextHandle handle s.shared.storage = some found ∧
      ∀ ctx, found = some ctx ↔ s.shared.storage.Registered ctx ∧ s.shared.contextHandle ctx = some handle) ∧
    ∀ a b, s.shared.contextHandle a = some handle → s.shared.contextHandle b = some handle → a = b := by
  obtain ⟨given,inv⟩ := (run_good path).sound
  have numbered : ∀ ctx, s.shared.contextHandle ctx = some handle → ctx < s.shared.next ∧ handle = given ctx := by
    intro ctx reads
    obtain ⟨context,here,has⟩ := Option.map_eq_some_iff.mp reads
    have living := (inv.sound ctx).alive.living context here
    refine ⟨inv.lt_of_context here,?_⟩
    cases queue : context.queue with
    | none => exact absurd (has.symm.trans (living.unborn queue).1) some_handle
    | some q => exact has.symm.trans (living.born q queue).2.1
  refine ⟨?_,fun a b reads reads' => ?_⟩
  · obtain ⟨found,ran,right⟩ := inv.find some_handle
    refine ⟨found,ran,fun ctx => ⟨fun same => ?_,fun ⟨there,reads⟩ => ?_⟩⟩
    · obtain ⟨context,finds⟩ := right ctx same
      exact ⟨finds.registered,(congrArg (Option.map Context.handle) finds.here).trans (congrArg some finds.handle)⟩
    · obtain ⟨_,number⟩ := numbered ctx reads
      have again := handleFind_given inv.stored there (reads.trans (congrArg some number))
      rw [← number] at again
      exact Option.some.inj (ran.symm.trans again)
  · obtain ⟨low,number⟩ := numbered a reads
    obtain ⟨low',number'⟩ := numbered b reads'
    exact inv.apart a low b low' (number.symm.trans number')

theorem run_handles_served : ∃ s : System Nat Nat, s.shared.dispatched 0 = [⟨0,0,0,none⟩] ∧
    ∀ a b, s.shared.contextHandle a = some 1 → s.shared.contextHandle b = some 1 → a = b := by
  obtain ⟨labels,s,path,_,_,dispatched⟩ := served
  exact ⟨s,dispatched,(run_handles path (by decide)).2⟩

-- When every worker has given back what it had and the global queue is empty, every message was handed on, and what is left are
-- the services that were made and not retired, each of them with its queue, with one reference, and found by its handle.
theorem run_rest (path : Run harbor weights labels s) (idle : ∀ stack ∈ s.threads, stack = [.outside] ∨ ∃ weight, stack = [.worker weight none])
    (empty : s.shared.globalMq = []) (c : Nat) :
    s.shared.dispatched c++s.shared.dropped c = s.shared.pushed c ∧ (s.shared.contexts c = none ↔ s.shared.queues c = none) ∧
    ∀ context, s.shared.contexts c = some context → context.ref = 1 ∧ context.init = true ∧ context.queue = some c ∧
      handleFind s.shared.contextHandle context.handle s.shared.storage = some (some c) := by
  obtain ⟨given,inv⟩ := (run_good path).sound
  have none_there := tally_none s.frames (fun frame there => by
    obtain ⟨stack,listed,inside⟩ := List.mem_flatten.mp there
    rcases idle stack listed with rfl | ⟨weight,rfl⟩ <;> rw [List.mem_singleton.mp inside] <;> rfl)
  obtain ⟨all,together,alive⟩ := (inv.sound c).settled ⟨none_there .held c,none_there .deleting c,none_there .freeing c,none_there .creating c,
    none_there .creator c,by change s.shared.globalMq.count c = 0; rw [empty]; rfl,none_there .token c⟩
  refine ⟨all,together,fun context here => ?_⟩
  obtain ⟨there,one,init,queue,number⟩ := alive context here
  refine ⟨one,init,queue,?_⟩
  rw [number]
  refine handleFind_given inv.stored there ?_
  rw [Shared.contextHandle,here,Option.map_some,number]
  rfl

theorem run_rest_served : ∃ s : System Nat Nat, s.shared.dispatched 0 = [⟨0,0,0,none⟩] ∧ s.shared.dispatched 0++s.shared.dropped 0 = s.shared.pushed 0 := by
  obtain ⟨labels,s,path,threads,empty,dispatched⟩ := served
  refine ⟨s,dispatched,(run_rest path (fun stack there => ?_) empty 0).1⟩
  rw [threads] at there
  rcases List.mem_cons.mp there with rfl | other
  · exact .inl rfl
  · exact .inr ⟨0,List.mem_singleton.mp other⟩

end system
end OriginGame.Skynet
