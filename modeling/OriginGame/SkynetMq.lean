import OriginGame.Ring

namespace OriginGame.Skynet

-- A cell of `queue` that was not written yet is none.
structure MessageQueue (M : Type*) where
  handle : Nat
  cap : Nat
  head : Nat
  tail : Nat
  release : Bool
  inGlobal : Bool
  overload : Nat
  overloadThreshold : Nat
  queue : List (Option M)

def mqCreate (handle : Nat) : MessageQueue M := ⟨handle,64,0,0,false,true,0,1024,List.replicate 64 none⟩

def mqLength (q : MessageQueue M) : Nat := if q.head ≤ q.tail then q.tail-q.head else q.tail+q.cap-q.head

def mqOverload (q : MessageQueue M) : Nat × MessageQueue M := (q.overload,{q with overload:=0})

-- `while (length > q->overload_threshold)`
def overloadLoop (length : Nat) : Nat → Nat → Nat → Option (Nat × Nat)
  | 0,_,_ => none
  | fuel+1,overload,threshold =>
    if length > threshold then overloadLoop length fuel length (threshold*2) else some (overload,threshold)

-- The message, or that there is none: then the queue is out of the global one.
def mqPop (q : MessageQueue M) : Option (Option M × MessageQueue M) :=
  if q.head ≠ q.tail then do
    let message ← (q.queue[q.head]?).join
    let popped := {q with head:=Ring.next q.cap q.head}
    let (overload,threshold) ← overloadLoop (mqLength popped) (mqLength popped+1) q.overload q.overloadThreshold
    some (some message,{popped with overload:=overload, overloadThreshold:=threshold})
  else some (none,{q with overloadThreshold:=1024, inGlobal:=false})

def expandQueue (q : MessageQueue M) : Option (MessageQueue M) := do
  let new_queue ← (List.range q.cap).mapM (fun i => q.queue[(q.head+i)%q.cap]?)
  some {q with head:=0, tail:=q.cap, cap:=q.cap*2, queue:=new_queue++List.replicate q.cap none}

-- With whether the queue has to be pushed to the global one.
def mqPush (q : MessageQueue M) (message : M) : Option (MessageQueue M × Bool) := do
  if q.tail ≥ q.queue.length then none
  let written := {q with queue:=q.queue.set q.tail (some message), tail:=Ring.next q.cap q.tail}
  let q ← if written.head = written.tail then expandQueue written else some written
  some ({q with inGlobal:=true},!q.inGlobal)

-- The queue as a list of the messages that wait in it.
structure MessageQueue.Waits (q : MessageQueue M) (waiting : List M) : Prop where
  ring : Ring.Holds q.queue q.head q.tail waiting
  cap : q.queue.length = q.cap
  threshold : 0 < q.overloadThreshold

section queue
variable {q : MessageQueue M} {waiting : List M} {message : M}

theorem mqCreate_waits (handle : Nat) : (mqCreate handle : MessageQueue M).Waits [] :=
  ⟨Ring.holds_nil (by decide),List.length_replicate,by change 0 < 1024; decide⟩

theorem overloadLoop_ends (length : Nat) (fuel overload : Nat) {threshold : Nat} (low : 0 < threshold) (enough : length < threshold*2^fuel) :
    ∃ last, overloadLoop length (fuel+1) overload threshold = some last ∧ 0 < last.2 := by
  induction fuel generalizing overload threshold with
  | zero =>
    refine ⟨(overload,threshold),?_,low⟩
    unfold overloadLoop
    rw [if_neg (by omega)]
  | succ fuel ih =>
    unfold overloadLoop
    split
    next =>
      apply ih length (by omega)
      rwa [Nat.pow_succ',← Nat.mul_assoc] at enough
    next => exact ⟨_,rfl,low⟩

namespace MessageQueue.Waits

theorem length (waits : q.Waits waiting) : mqLength q = waiting.length := by
  unfold mqLength
  rw [← waits.cap]
  exact waits.ring.length

-- What an operation leaves as it is.
structure Kept (q after : MessageQueue M) : Prop where
  handle : after.handle = q.handle
  release : after.release = q.release

theorem pop_nil (waits : q.Waits []) :
    ∃ after, mqPop q = some (none,after) ∧ after.Waits [] ∧ Kept q after ∧ after.inGlobal = false := by
  have same := waits.ring.empty_iff.mpr rfl
  refine ⟨{q with overloadThreshold:=1024, inGlobal:=false},?_,⟨waits.ring,waits.cap,by change 0 < 1024; decide⟩,⟨rfl,rfl⟩,rfl⟩
  unfold mqPop
  rw [if_neg (not_not.mpr same)]

theorem pop_cons (waits : q.Waits (message::waiting)) :
    ∃ after, mqPop q = some (some message,after) ∧ after.Waits waiting ∧ Kept q after ∧ after.inGlobal = q.inGlobal := by
  have apart : q.head ≠ q.tail := fun same => (nomatch waits.ring.empty_iff.mp same)
  have popped : ({q with head:=Ring.next q.cap q.head} : MessageQueue M).Waits waiting := by
    refine ⟨?_,waits.cap,waits.threshold⟩
    dsimp only
    rw [← waits.cap]
    exact waits.ring.pop
  have large : waiting.length < q.overloadThreshold*2^waiting.length :=
    Nat.lt_two_pow_self.trans_le (Nat.le_mul_of_pos_left _ waits.threshold)
  obtain ⟨⟨overload,threshold⟩,ran,low⟩ := overloadLoop_ends waiting.length waiting.length q.overload waits.threshold large
  refine ⟨{q with head:=Ring.next q.cap q.head, overload:=overload, overloadThreshold:=threshold},?_,
    ⟨popped.ring,waits.cap,low⟩,⟨rfl,rfl⟩,rfl⟩
  unfold mqPop
  rw [if_pos apart,waits.ring.first]
  simp only [popped.length,ran,Option.join_some,Option.bind_eq_bind,Option.bind_some]

theorem expand (ring : Ring.Holds q.queue q.head q.tail waiting) (cap : q.queue.length = q.cap) (full : waiting.length+1 = q.cap) :
    expandQueue {q with queue:=q.queue.set q.tail (some message), tail:=Ring.next q.cap q.tail} =
      some {q with head:=0, tail:=q.cap, cap:=q.cap*2, queue:=(waiting++[message]).map some++List.replicate q.cap none} := by
  have unrolled := ring.unroll message (full.trans cap.symm)
  rw [cap] at unrolled
  unfold expandQueue
  simp only [unrolled,Option.bind_eq_bind,Option.bind_some]

theorem push (waits : q.Waits waiting) (message : M) :
    ∃ after, mqPush q message = some (after,!q.inGlobal) ∧ after.Waits (waiting++[message]) ∧ Kept q after ∧ after.inGlobal = true := by
  have room := waits.ring.room
  have inside : ¬q.tail ≥ q.queue.length := Nat.not_le.mpr waits.ring.tail_lt
  by_cases full : waiting.length+1 = q.cap
  · have up : q.head = Ring.next q.cap q.tail := by
      rw [← waits.cap]
      exact waits.ring.full_iff.mpr (full.trans waits.cap.symm)
    have size : (waiting++[message]).length = q.cap := by rwa [List.length_append,List.length_singleton]
    refine ⟨{q with head:=0, tail:=q.cap, cap:=q.cap*2, queue:=(waiting++[message]).map some++List.replicate q.cap none, inGlobal:=true},
      ?_,⟨?_,?_,waits.threshold⟩,⟨rfl,rfl⟩,rfl⟩
    · unfold mqPush
      simp only [if_neg inside,if_pos up,expand waits.ring waits.cap full,Option.bind_eq_bind,Option.bind_some]
    · dsimp only
      rw [← size]
      exact Ring.holds_front _ (by omega)
    · dsimp only
      rw [List.length_append,List.length_map,List.length_replicate,size]
      omega
  · have apart : q.head ≠ Ring.next q.cap q.tail := by
      rw [← waits.cap]
      exact fun up => full ((waits.ring.full_iff.mp up).trans waits.cap)
    have pushed := waits.ring.push message (by have := waits.cap; omega)
    rw [waits.cap] at pushed
    refine ⟨{q with queue:=q.queue.set q.tail (some message), tail:=Ring.next q.cap q.tail, inGlobal:=true},
      ?_,⟨pushed,?_,waits.threshold⟩,⟨rfl,rfl⟩,rfl⟩
    · unfold mqPush
      simp only [if_neg inside,if_neg apart,Option.bind_eq_bind,Option.bind_some]
    · dsimp only
      rw [List.length_set]
      exact waits.cap

end MessageQueue.Waits
end queue

end OriginGame.Skynet
