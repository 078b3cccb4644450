import Mathlib.Algebra.BigOperators.Group.Multiset.Basic
import OriginGame.SkynetService

namespace OriginGame.Skynet

inductive Role where
  | token
  | draining
  | held
  | serving
  | deleting
  | freeing
  | creating
  | creator
  | window
deriving DecidableEq

-- What a frame has of which service.
def Frame.roles : Frame D N → List (Role × Nat)
  | .worker _ (some q) | .globalPush q | .mqRelease q _ => [(.token,q)]
  | .loop _ _ ctx _ _ | .taken _ _ ctx _ _ _ | .handling _ _ ctx _ _ _ | .ending _ _ ctx => [(.token,ctx),(.held,ctx),(.serving,ctx)]
  | .pushing ctx _ | .release ctx => [(.held,ctx)]
  | .releasing ctx | .markRelease ctx => [(.deleting,ctx)]
  | .free ctx => [(.deleting,ctx),(.freeing,ctx)]
  | .creating ctx _ => [(.held,ctx),(.creating,ctx)]
  | .initing ctx | .settling ctx _ => [(.token,ctx),(.held,ctx),(.creator,ctx)]
  | .launched ctx _ => [(.token,ctx),(.creator,ctx),(.window,ctx)]
  | .published ctx => [(.window,ctx)]
  | .retireFailed _ q => [(.token,q),(.creator,q)]
  | .draining q _ => [(.token,q),(.draining,q)]
  | _ => []

-- What a frame has to be given, besides.
def Frame.Fits (next : Nat) (given : Nat → Nat) : Frame D N → Prop
  | .loop _ q ctx _ _ | .taken _ q ctx _ _ _ | .handling _ q ctx _ _ _ | .ending _ q ctx | .settling ctx q | .launched ctx q => q = ctx
  | .creating ctx handle | .retireFailed handle ctx | .mqRelease ctx handle | .draining ctx handle => ctx < next ∧ handle = given ctx
  | .push handle _ | .retire handle | .endless handle => handle ≠ 0
  | _ => True

def tally (frames : Multiset (Frame D N)) (role : Role) (c : Nat) : Nat := (frames.map (fun frame => frame.roles.count (role,c))).sum

def lifeOf (s : Shared D N) (given : Nat → Nat) (frames : Multiset (Frame D N)) (c : Nat) : Life :=
  ⟨given c,s.contexts c,s.storage.Registered c,tally frames .held c,tally frames .serving c,tally frames .deleting c,tally frames .freeing c,
    tally frames .creating c,tally frames .creator c,tally frames .window c⟩

def mailOf (s : Shared D N) (frames : Multiset (Frame D N)) (c : Nat) : Mail D :=
  ⟨s.queues c,s.globalMq.count c,tally frames .token c,tally frames .draining c,s.pushed c,s.dispatched c,s.dropped c⟩

structure Fresh (s : Shared D N) (c : Nat) : Prop where
  context : s.contexts c = none
  queue : s.queues c = none
  pushed : s.pushed c = []
  dispatched : s.dispatched c = []
  dropped : s.dropped c = []

variable [Ord N] in
-- All services are sound, and have handles of their own.
structure Invariant (s : Shared D N) (given : Nat → Nat) (frames : Multiset (Frame D N)) : Prop where
  stored : Stored s.storage given
  names : Ordered s.storage.name
  numbered : ∀ c < s.next, ∃ low, given c = low|||s.storage.harbor ∧ 0 < low ∧ low < s.storage.handleIndex ∧ low < 2^24
  apart : ∀ a < s.next, ∀ b < s.next, given a = given b → a = b
  fresh : ∀ c, s.next ≤ c → Fresh s c
  fits : ∀ frame ∈ frames, frame.Fits s.next given
  sound : ∀ c, Sound c (lifeOf s given frames c) (mailOf s frames c)

section tally
variable {D N : Type} {frame : Frame D N} {others : Multiset (Frame D N)} {role : Role} {c : Nat}

@[simp] theorem tally_cons : tally (frame ::ₘ others) role c = frame.roles.count (role,c)+tally others role c := by
  unfold tally
  rw [Multiset.map_cons,Multiset.sum_cons]

theorem tally_pos {frames : Multiset (Frame D N)} (frame : Frame D N) (there : frame ∈ frames) (has : (role,c) ∈ frame.roles) : 0 < tally frames role c := by
  obtain ⟨others,rfl⟩ := Multiset.exists_cons_of_mem there
  have own := List.count_pos_iff.mpr has
  rw [tally_cons]
  omega

-- Each role comes with another one.
theorem tally_le {other : Role} (each : ∀ frame : Frame D N, frame.roles.count (role,c) ≤ frame.roles.count (other,c)) (frames : Multiset (Frame D N)) :
    tally frames role c ≤ tally frames other c := by
  induction frames using Multiset.induction with
  | empty => exact le_rfl
  | cons frame others ih =>
    rw [tally_cons,tally_cons]
    exact Nat.add_le_add (each frame) ih

structure Bounds (frames : Multiset (Frame D N)) (c : Nat) : Prop where
  creator : tally frames .creator c ≤ tally frames .token c
  creating : tally frames .creating c ≤ tally frames .held c
  serving : tally frames .serving c ≤ tally frames .held c
  draining : tally frames .draining c ≤ tally frames .token c
  freeing : tally frames .freeing c ≤ tally frames .deleting c

theorem bounds (frames : Multiset (Frame D N)) (c : Nat) : Bounds frames c := by
  constructor
  all_goals
    refine tally_le (fun frame => ?_) frames
    unfold Frame.roles
    split <;> simp [List.count_cons]

end tally

-- What is the same for a service in two states of the memory.
structure Same (s t : Shared D N) (c : Nat) : Prop where
  context : t.contexts c = s.contexts c
  queue : t.queues c = s.queues c
  registered : t.storage.Registered c ↔ s.storage.Registered c
  listed : t.globalMq.count c = s.globalMq.count c
  pushed : t.pushed c = s.pushed c
  dispatched : t.dispatched c = s.dispatched c
  dropped : t.dropped c = s.dropped c

section memory
variable {D N : Type} {s t : Shared D N} {given : Nat → Nat} {frames later : Multiset (Frame D N)} {c x : Nat}

theorem Same.refl (s : Shared D N) (c : Nat) : Same s s c := ⟨rfl,rfl,.rfl,rfl,rfl,rfl,rfl⟩

theorem Same.sound {given' : Nat → Nat} (sound : Sound c (lifeOf s given frames c) (mailOf s frames c)) (same : Same s t c) (number : given' c = given c)
    (tallies : ∀ role, tally later role c = tally frames role c) : Sound c (lifeOf t given' later c) (mailOf t later c) := by
  have life : lifeOf t given' later c = lifeOf s given frames c := by
    simp only [lifeOf,number,same.context,same.registered,tallies]
  have mail : mailOf t later c = mailOf s frames c := by
    simp only [mailOf,same.queue,same.listed,same.pushed,same.dispatched,same.dropped,tallies]
  rw [life,mail]
  exact sound

-- What leaves the storage of the handles too.
structure Local (s t : Shared D N) (x : Nat) : Prop where
  storage : t.storage = s.storage
  next : t.next = s.next
  same : ∀ c ≠ x, Same s t c

theorem Local.refl (s : Shared D N) (x : Nat) : Local s s x := ⟨rfl,rfl,fun c _ => .refl s c⟩

theorem putContext_local (s : Shared D N) (x : Nat) (context : Option Context) : Local s (s.putContext x context) x :=
  ⟨rfl,rfl,fun _ apart => ⟨Function.update_of_ne apart .., rfl,.rfl,rfl,rfl,rfl,rfl⟩⟩

theorem putQueue_local (s : Shared D N) (x : Nat) (q : Option (MessageQueue (SkynetMessage D))) : Local s (s.putQueue x q) x :=
  ⟨rfl,rfl,fun _ apart => ⟨rfl,Function.update_of_ne apart ..,.rfl,rfl,rfl,rfl,rfl⟩⟩

theorem Local.trans {u : Shared D N} (first : Local s t x) (second : Local t u x) : Local s u x := by
  refine ⟨second.storage.trans first.storage,second.next.trans first.next,fun c apart => ?_⟩
  have one := first.same c apart
  have two := second.same c apart
  exact ⟨two.context.trans one.context,two.queue.trans one.queue,two.registered.trans one.registered,two.listed.trans one.listed,
    two.pushed.trans one.pushed,two.dispatched.trans one.dispatched,two.dropped.trans one.dropped⟩

theorem journalPushed_local (s : Shared D N) (x : Nat) (msg : SkynetMessage D) : Local s (s.journalPushed x msg) x :=
  ⟨rfl,rfl,fun _ apart => ⟨rfl,rfl,.rfl,rfl,Function.update_of_ne apart ..,rfl,rfl⟩⟩

theorem journalDispatched_local (s : Shared D N) (x : Nat) (msg : SkynetMessage D) : Local s (s.journalDispatched x msg) x :=
  ⟨rfl,rfl,fun _ apart => ⟨rfl,rfl,.rfl,rfl,rfl,Function.update_of_ne apart ..,rfl⟩⟩

theorem journalDropped_local (s : Shared D N) (x : Nat) (msg : SkynetMessage D) : Local s (s.journalDropped x msg) x :=
  ⟨rfl,rfl,fun _ apart => ⟨rfl,rfl,.rfl,rfl,rfl,rfl,Function.update_of_ne apart ..⟩⟩

-- A queue that is allocated and stands nowhere is put at the end.
theorem globalmqPush_done (listed : ∀ q ∈ s.globalMq, ∃ mq, s.queues q = some mq) {mq : MessageQueue (SkynetMessage D)} (here : s.queues x = some mq)
    (outside : x ∉ s.globalMq) : s.globalmqPush x = some {s with globalMq:=s.globalMq++[x]} := by
  unfold Shared.globalmqPush
  rw [here]
  simp only [Option.bind_eq_bind,Option.bind_some,if_neg outside]
  cases last : s.globalMq.getLast? with
  | none => rfl
  | some tail =>
    obtain ⟨other,there⟩ := listed tail (List.mem_of_getLast? last)
    dsimp only
    rw [there]
    rfl

theorem globalMq_local (s : Shared D N) {globalMq : List Nat} (counts : ∀ c ≠ x, globalMq.count c = s.globalMq.count c) : Local s {s with globalMq:=globalMq} x :=
  ⟨rfl,rfl,fun c apart => ⟨rfl,rfl,.rfl,counts c apart,rfl,rfl,rfl⟩⟩

theorem count_concat_ne (list : List Nat) (apart : c ≠ x) : (list++[x]).count c = list.count c := by
  rw [List.count_append,List.count_singleton,if_neg (by simpa using apart.symm),Nat.add_zero]

theorem listed_put (listed : ∀ q ∈ s.globalMq, ∃ mq, s.queues q = some mq) (x : Nat) (mq : MessageQueue (SkynetMessage D)) :
    ∀ q ∈ (s.putQueue x (some mq)).globalMq, ∃ other, (s.putQueue x (some mq)).queues q = some other := by
  intro q there
  by_cases same : q = x
  · exact ⟨mq,by rw [same]; exact Function.update_self ..⟩
  · obtain ⟨other,here⟩ := listed q there
    exact ⟨other,(Function.update_of_ne same ..).trans here⟩

-- A queue that is outside of the global one is put into it.
def woken (s : Shared D N) (inside : Bool) (x : Nat) : List Nat := if inside then s.globalMq else s.globalMq++[x]

theorem count_woken (s : Shared D N) (inside : Bool) (x : Nat) : (woken s inside x).count x = s.globalMq.count x+(if inside then 0 else 1) := by
  unfold woken
  split
  next => rfl
  next => rw [List.count_append,List.count_singleton_self]

theorem count_woken_ne {inside : Bool} (apart : c ≠ x) : (woken s inside x).count c = s.globalMq.count c := by
  unfold woken
  split
  next => rfl
  next => exact count_concat_ne _ apart

theorem wake_done {inside : Bool} (listed : ∀ q ∈ t.globalMq, ∃ mq, t.queues q = some mq) {mq : MessageQueue (SkynetMessage D)} (here : t.queues x = some mq)
    (outside : inside = false → x ∉ t.globalMq) : (if inside then some t else t.globalmqPush x) = some {t with globalMq:=woken t inside x} := by
  cases inside with
  | true => rfl
  | false => exact globalmqPush_done listed here (outside rfl)

theorem Held.outside {number : Nat} {mq : MessageQueue (SkynetMessage D)} (held : Held number (mailOf s frames x) mq) (release : mq.release = false)
    (out : mq.inGlobal = false) : x ∉ s.globalMq := by
  have alone := held.alone
  rw [out,release] at alone
  change s.globalMq.count x+_ = 0 at alone
  exact List.count_eq_zero.mp (by omega)

end memory

section invariant
variable {D N : Type} [Ord N] {s t : Shared D N} {given : Nat → Nat} {frame : Frame D N} {frames later others : Multiset (Frame D N)} {c x : Nat}

theorem Invariant.first_fits (inv : Invariant s given (frame ::ₘ others)) : frame.Fits s.next given := (Multiset.forall_mem_cons.mp inv.fits).1

theorem Invariant.rest_fit (inv : Invariant s given (frame ::ₘ others)) : ∀ one ∈ others, one.Fits s.next given := (Multiset.forall_mem_cons.mp inv.fits).2

omit [Ord N] in
theorem fit_cons {next : Nat} (first : frame.Fits next given) (rest : ∀ one ∈ others, one.Fits next given) : ∀ one ∈ frame ::ₘ others, one.Fits next given :=
  Multiset.forall_mem_cons.mpr ⟨first,rest⟩

theorem Invariant.lt_of_context (inv : Invariant s given frames) {context : Context} (here : s.contexts c = some context) : c < s.next := by
  by_contra high
  cases here.symm.trans (inv.fresh c (Nat.not_lt.mp high)).context

theorem Invariant.lt_of_queue (inv : Invariant s given frames) {q : MessageQueue (SkynetMessage D)} (here : s.queues c = some q) : c < s.next := by
  by_contra high
  cases here.symm.trans (inv.fresh c (Nat.not_lt.mp high)).queue

-- A step that touches one service, and leaves the handles.
theorem Invariant.touch (inv : Invariant s given frames) (x_lt : x < s.next) (next : t.next = s.next) (stored : Stored t.storage given)
    (names : Ordered t.storage.name) (index : t.storage.handleIndex = s.storage.handleIndex) (harbor : t.storage.harbor = s.storage.harbor)
    (same : ∀ c ≠ x, Same s t c) (tallies : ∀ c ≠ x, ∀ role, tally later role c = tally frames role c)
    (fits : ∀ frame ∈ later, frame.Fits s.next given) (sound : Sound x (lifeOf t given later x) (mailOf t later x)) : Invariant t given later := by
  refine ⟨stored,names,?_,?_,?_,?_,fun c => ?_⟩
  · rw [next,index,harbor]
    exact inv.numbered
  · rw [next]
    exact inv.apart
  · intro c high
    rw [next] at high
    have old := inv.fresh c high
    have kept := same c (by omega)
    exact ⟨kept.context.trans old.context,kept.queue.trans old.queue,kept.pushed.trans old.pushed,kept.dispatched.trans old.dispatched,kept.dropped.trans old.dropped⟩
  · rw [next]
    exact fits
  · by_cases here : c = x
    · subst here
      exact sound
    · exact (same c here).sound (inv.sound c) rfl (tallies c here)

-- What it makes of the service is said by the sound life and mail that it comes to.
theorem Invariant.near (inv : Invariant s given frames) (x_lt : x < s.next) (local_step : Local s t x)
    (tallies : ∀ c ≠ x, ∀ role, tally later role c = tally frames role c) (fits : ∀ frame ∈ later, frame.Fits s.next given)
    {life : Life} {mail : Mail D} (sound : Sound x life mail) (life_same : lifeOf t given later x = life) (mail_same : mailOf t later x = mail) :
    Invariant t given later := by
  have storage := local_step.storage
  refine inv.touch x_lt local_step.next ?_ ?_ ?_ ?_ local_step.same tallies fits (by rwa [life_same,mail_same])
  · rw [storage]
    exact inv.stored
  · rw [storage]
    exact inv.names
  · rw [storage]
  · rw [storage]

-- The frames alone change, and what they have of one service.
theorem Invariant.turn (inv : Invariant s given frames) (x_lt : x < s.next) (tallies : ∀ c ≠ x, ∀ role, tally later role c = tally frames role c)
    (fits : ∀ frame ∈ later, frame.Fits s.next given) {life : Life} {mail : Mail D} (sound : Sound x life mail) (life_same : lifeOf s given later x = life)
    (mail_same : mailOf s later x = mail) : Invariant s given later := inv.near x_lt (.refl s x) tallies fits sound life_same mail_same

-- Other frames with the same roles.
theorem Invariant.reframe (inv : Invariant s given frames) (tallies : ∀ c role, tally later role c = tally frames role c)
    (fits : ∀ frame ∈ later, frame.Fits s.next given) : Invariant s given later :=
  ⟨inv.stored,inv.names,inv.numbered,inv.apart,inv.fresh,fits,fun c => (Same.refl s c).sound (inv.sound c) rfl (tallies c)⟩

theorem Invariant.listed (inv : Invariant s given frames) : ∀ q ∈ s.globalMq, ∃ mq, s.queues q = some mq := by
  intro q there
  have positive := List.count_pos_iff.mpr there
  exact (inv.sound q).posted.some_queue (by change 0 < s.globalMq.count q+_; omega)

-- A thread that has a queue finds it allocated, and nowhere else.
theorem Invariant.owned (inv : Invariant s given frames) (owner : 0 < tally frames .token x) :
    (∃ mq, s.queues x = some mq) ∧ x ∉ s.globalMq ∧ tally frames .token x = 1 := by
  have once := (inv.sound x).posted.once
  change s.globalMq.count x+tally frames .token x ≤ 1 at once
  refine ⟨(inv.sound x).posted.some_queue (Nat.add_pos_right _ owner),?_,by omega⟩
  exact List.count_eq_zero.mp (by omega)

end invariant

end OriginGame.Skynet
