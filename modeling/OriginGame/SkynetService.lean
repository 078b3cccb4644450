import OriginGame.SkynetServer

namespace OriginGame.Skynet

-- One service, as its context lives: the handle it was given, whether it is registered, the references the threads hold to it, how many of them
-- are in its module, delete it, are past the mark of that, have to store its handle, make it, and go on with it without a reference.
structure Life where
  given : Nat
  context : Option Context
  registered : Prop
  held : Nat
  serving : Nat
  deleting : Nat
  freeing : Nat
  creating : Nat
  creator : Nat
  window : Nat

-- And as its queue does: how often it is in the global one, how many threads have it, and how many empty it, with its journal.
structure Mail (D : Type) where
  queue : Option (MessageQueue (SkynetMessage D))
  listed : Nat
  token : Nat
  draining : Nat
  pushed : List (SkynetMessage D)
  dispatched : List (SkynetMessage D)
  dropped : List (SkynetMessage D)

structure Living (c : Nat) (life : Life) (context : Context) : Prop where
  registered : life.registered → context.ref = life.held+1
  retired : ¬life.registered → context.ref = life.held
  deleting : life.deleting = if context.ref = 0 then 1 else 0
  unborn : context.queue = none → context.handle = 0 ∧ life.registered ∧ life.held = 1 ∧ life.creating = 1
  born : ∀ q, context.queue = some q → q = c ∧ context.handle = life.given ∧ life.creating = 0
  init : context.init = false → life.registered → 0 < life.creator+life.creating
  serving : 0 < life.serving → context.init = true

structure Gone (life : Life) : Prop where
  registered : ¬life.registered
  held : life.held = 0
  serving : life.serving = 0
  deleting : life.deleting = 0
  creating : life.creating = 0
  window : life.window = 0

-- The references are counted, the last of them deletes, and it does so once.
structure Alive (c : Nat) (life : Life) : Prop where
  freeing : life.freeing ≤ life.deleting
  gone : life.context = none → Gone life
  living : ∀ context, life.context = some context → Living c life context

structure Held (given : Nat) (mail : Mail D) (q : MessageQueue (SkynetMessage D)) : Prop where
  handle : q.handle = given
  alone : mail.listed+mail.token = if q.inGlobal || q.release then 1 else 0
  waits : ∃ waiting, q.Waits waiting ∧ mail.dispatched++mail.dropped++waiting = mail.pushed ∧ (q.inGlobal = false → waiting = [])
  dropped : q.release = false → mail.dropped = []
  draining : 0 < mail.draining → q.release = true

structure Vanished (mail : Mail D) : Prop where
  listed : mail.listed = 0
  token : mail.token = 0
  draining : mail.draining = 0
  all : mail.dispatched++mail.dropped = mail.pushed

-- A queue is in one place as long as there is something to do with it, and in none otherwise.
structure Posted (given : Nat) (mail : Mail D) : Prop where
  vanished : mail.queue = none → Vanished mail
  held : ∀ q, mail.queue = some q → Held given mail q

structure Blank (mail : Mail D) : Prop where
  queue : mail.queue = none
  pushed : mail.pushed = []
  dispatched : mail.dispatched = []
  dropped : mail.dropped = []

-- The queue stays while the context does, and is released by who deletes it.
structure Joined (life : Life) (mail : Mail D) : Prop where
  blank : ∀ context, life.context = some context → context.queue = none → Blank mail
  stays : ∀ context, life.context = some context → context.queue ≠ none → life.freeing = 0 → ∃ q, mail.queue = some q ∧ q.release = false
  released : ∀ q, mail.queue = some q → q.release = true → life.context = none ∨ life.freeing = 1
  opened : ∀ q, mail.queue = some q → q.release = false → life.context ≠ none ∧ life.freeing = 0

structure Sound (c : Nat) (life : Life) (mail : Mail D) : Prop where
  alive : Alive c life
  posted : Posted life.given mail
  joined : Joined life mail

section life
variable {c : Nat} {life : Life} {context : Context}

theorem Living.ref_pos (living : Living c life context) (held : 0 < life.held) : 0 < context.ref := by
  by_cases there : life.registered
  · rw [living.registered there]
    omega
  · rwa [living.retired there]

theorem Alive.grab (alive : Alive c life) (here : life.context = some context) (there : life.registered) (born : context.queue ≠ none) :
    Alive c {life with context:=some {context with ref:=context.ref+1}, held:=life.held+1} := by
  have living := alive.living context here
  have counted := living.registered there
  refine ⟨alive.freeing,fun impossible => (nomatch impossible),fun _ same => ?_⟩
  cases same
  refine ⟨fun _ => congrArg (·+1) counted,fun away => absurd there away,?_,fun unborn => absurd unborn born,living.born,living.init,living.serving⟩
  have before := living.deleting
  rw [if_neg (by omega)] at before
  exact before.trans (if_neg (Nat.succ_ne_zero _)).symm

-- What leaves the references as they are.
theorem Alive.around (alive : Alive c life) (serving freeing creator window : Nat) (once : freeing ≤ life.deleting)
    (gone : life.context = none → serving = 0 ∧ window = 0)
    (init : ∀ context, life.context = some context → context.init = false → life.registered → 0 < creator+life.creating)
    (serves : ∀ context, life.context = some context → 0 < serving → context.init = true) :
    Alive c {life with serving:=serving, freeing:=freeing, creator:=creator, window:=window} := by
  refine ⟨once,fun none_left => ?_,fun context here => ?_⟩
  · have left := alive.gone none_left
    exact ⟨left.registered,left.held,(gone none_left).1,left.deleting,left.creating,(gone none_left).2⟩
  · have living := alive.living context here
    exact ⟨living.registered,living.retired,living.deleting,living.unborn,living.born,init context here,serves context here⟩

theorem Alive.serve (alive : Alive c life) (init : ∀ context, life.context = some context → context.init = true) (some_context : life.context ≠ none) :
    Alive c {life with serving:=life.serving+1} :=
  alive.around _ _ _ _ alive.freeing (fun none_left => absurd none_left some_context) (fun context here => (alive.living context here).init)
    (fun context here _ => init context here)

theorem Alive.leave (alive : Alive c life) : Alive c {life with serving:=life.serving-1} :=
  alive.around _ _ _ _ alive.freeing (fun none_left => ⟨by rw [(alive.gone none_left).serving],(alive.gone none_left).window⟩)
    (fun context here => (alive.living context here).init) (fun context here some_one => (alive.living context here).serving (by omega))

-- A reference that is given up, where the count came down to `ref`.
theorem Alive.drop {ref : Nat} (alive : Alive c life) (here : life.context = some context) (born : context.queue ≠ none) (held : 0 < life.held)
    (counted : context.ref = ref+1) :
    Alive c {life with context:=some {context with ref:=ref}, held:=life.held-1, deleting:=life.deleting+(if ref = 0 then 1 else 0)} := by
  have living := alive.living context here
  have none_yet := living.deleting
  rw [if_neg (by omega)] at none_yet
  refine ⟨?_,fun impossible => (nomatch impossible),fun _ same => ?_⟩
  · have := alive.freeing
    dsimp only
    omega
  · cases same
    refine ⟨fun there => ?_,fun away => ?_,?_,fun unborn => absurd unborn born,living.born,living.init,living.serving⟩
    · have := living.registered there
      dsimp only
      omega
    · have := living.retired away
      dsimp only
      omega
    · dsimp only
      rw [none_yet,Nat.zero_add]

theorem Alive.retire (alive : Alive c life) (here : life.context = some context) (born : context.queue ≠ none) (there : life.registered) :
    Alive c {life with registered:=False, held:=life.held+1} := by
  have living := alive.living context here
  refine ⟨alive.freeing,fun none_left => ?_,fun other same => ?_⟩
  · cases here.symm.trans none_left
  · cases here.symm.trans same
    exact ⟨False.elim,fun _ => living.registered there,living.deleting,fun unborn => absurd unborn born,living.born,fun _ => False.elim,living.serving⟩

theorem Alive.giveUp (alive : Alive c life) (away : ¬life.registered) : Alive c {life with creator:=life.creator-1} :=
  alive.around _ _ _ _ alive.freeing (fun none_left => ⟨(alive.gone none_left).serving,(alive.gone none_left).window⟩)
    (fun _ _ _ there => absurd there away) (fun context here => (alive.living context here).serving)

theorem Alive.launch (alive : Alive c life) (here : life.context = some context) :
    Alive c {life with context:=some {context with init:=true}, creator:=life.creator-1} := by
  have living := alive.living context here
  refine ⟨alive.freeing,fun impossible => (nomatch impossible),fun _ same => ?_⟩
  cases same
  exact ⟨living.registered,living.retired,living.deleting,living.unborn,living.born,fun impossible => (nomatch impossible),fun _ => rfl⟩

theorem Alive.await (alive : Alive c life) (some_context : life.context ≠ none) (window : Nat) : Alive c {life with window:=window} :=
  alive.around _ _ _ _ alive.freeing (fun none_left => absurd none_left some_context) (fun context here => (alive.living context here).init)
    (fun context here => (alive.living context here).serving)

theorem Alive.mark (alive : Alive c life) (none_yet : life.freeing = 0) (deleting : 0 < life.deleting) : Alive c {life with freeing:=life.freeing+1} :=
  alive.around _ _ _ _ (by omega) (fun none_left => ⟨(alive.gone none_left).serving,(alive.gone none_left).window⟩)
    (fun context here => (alive.living context here).init) (fun context here => (alive.living context here).serving)

theorem Alive.free (alive : Alive c life) (here : life.context = some context) (freeing : life.freeing = 1) (serving : life.serving ≤ life.held)
    (window : life.window = 0) : Alive c {life with context:=none, deleting:=life.deleting-1, freeing:=life.freeing-1} := by
  have living := alive.living context here
  have bound := alive.freeing
  have counted := living.deleting
  split at counted
  next none_left =>
    have away : ¬life.registered := by
      intro there
      have := living.registered there
      omega
    have held := living.retired away
    have born : life.creating = 0 := by
      cases queue : context.queue with
      | none => exact absurd (living.unborn queue).2.1 away
      | some q => exact (living.born q queue).2.2
    refine ⟨by dsimp only; omega,fun _ => ⟨away,by dsimp only; omega,by dsimp only; omega,by dsimp only; omega,born,window⟩,
      fun _ impossible => (nomatch impossible)⟩
  next => omega

theorem Alive.birth (alive : Alive c life) (none_yet : life.context = none) (given : Nat) :
    Alive c {life with given:=given, context:=some ⟨0,none,2,false⟩, registered:=True, held:=life.held+1, creating:=life.creating+1} := by
  have gone := alive.gone none_yet
  have held := gone.held
  have creating := gone.creating
  refine ⟨alive.freeing,fun impossible => (nomatch impossible),fun _ same => ?_⟩
  cases same
  refine ⟨fun _ => by dsimp only; omega,fun away => absurd trivial away,gone.deleting,fun _ => ⟨rfl,trivial,by dsimp only; omega,by dsimp only; omega⟩,
    fun _ impossible => (nomatch impossible),fun _ _ => by dsimp only; omega,fun some_one => ?_⟩
  exact absurd some_one (by dsimp only; rw [gone.serving]; decide)

theorem Alive.create (alive : Alive c life) (here : life.context = some context) (unborn : context.queue = none) :
    Alive c {life with context:=some {context with handle:=life.given, queue:=some c}, creating:=life.creating-1, creator:=life.creator+1} := by
  have living := alive.living context here
  have one := (living.unborn unborn).2.2.2
  refine ⟨alive.freeing,fun impossible => (nomatch impossible),fun _ same => ?_⟩
  cases same
  refine ⟨living.registered,living.retired,living.deleting,fun impossible => (nomatch impossible),fun q same => ⟨(Option.some.inj same).symm,rfl,by dsimp only; omega⟩,
    fun _ _ => by dsimp only; omega,living.serving⟩

end life

section mail
variable {given : Nat} {mail : Mail D} {q after : MessageQueue (SkynetMessage D)} {msg : SkynetMessage D}

theorem Posted.some_queue (posted : Posted given mail) (somewhere : 0 < mail.listed+mail.token) : ∃ q, mail.queue = some q := by
  cases here : mail.queue with
  | none =>
    have vanished := posted.vanished here
    have := vanished.listed
    have := vanished.token
    omega
  | some q => exact ⟨q,rfl⟩

theorem Posted.of_held (here : mail.queue = some q) (held : Held given mail q) : Posted given mail := by
  refine ⟨fun none_left => ?_,fun other same => ?_⟩
  · cases here.symm.trans none_left
  · cases here.symm.trans same
    exact held

theorem Held.once (held : Held given mail q) : mail.listed+mail.token ≤ 1 := by
  rw [held.alone]
  split <;> decide

theorem Posted.once (posted : Posted given mail) : mail.listed+mail.token ≤ 1 := by
  cases here : mail.queue with
  | none =>
    have vanished := posted.vanished here
    have := vanished.listed
    have := vanished.token
    omega
  | some q => exact (posted.held q here).once

-- From one place to another.
theorem Posted.move (posted : Posted given mail) {listed token : Nat} (same : listed+token = mail.listed+mail.token) :
    Posted given {mail with listed:=listed, token:=token} := by
  refine ⟨fun none_left => ?_,fun q here => ?_⟩
  · have vanished := posted.vanished none_left
    have no_list := vanished.listed
    have no_token := vanished.token
    exact ⟨by dsimp only; omega,by dsimp only; omega,vanished.draining,vanished.all⟩
  · have held := posted.held q here
    exact ⟨held.handle,same.trans held.alone,held.waits,held.dropped,held.draining⟩

theorem Posted.drain (posted : Posted given mail) (here : mail.queue = some q) (release : q.release = true) :
    Posted given {mail with draining:=mail.draining+1} :=
  have held := posted.held q here
  .of_held here ⟨held.handle,held.alone,held.waits,held.dropped,fun _ => release⟩

theorem Posted.push (posted : Posted given mail) (msg : SkynetMessage D) (here : mail.queue = some q) (release : q.release = false) :
    ∃ after, mqPush q msg = some (after,!q.inGlobal) ∧ after.release = false ∧
      Posted given {mail with queue:=some after, listed:=mail.listed+(if q.inGlobal then 0 else 1), pushed:=mail.pushed++[msg]} := by
  have held := posted.held q here
  obtain ⟨waiting,waits,all,_⟩ := held.waits
  obtain ⟨after,ran,waits',kept,inside⟩ := waits.push msg
  have release' := kept.release.trans release
  refine ⟨after,ran,release',.of_held rfl ⟨kept.handle.trans held.handle,?_,⟨waiting++[msg],waits',?_,?_⟩,fun _ => held.dropped release,fun some_one => ?_⟩⟩
  · have alone := held.alone
    rw [release,Bool.or_false] at alone
    dsimp only
    rw [inside,Bool.true_or,if_pos rfl]
    split at alone <;> simp_all
  · dsimp only
    rw [← all,List.append_assoc _ waiting]
  · rw [inside]
    exact fun impossible => (nomatch impossible)
  · cases release.symm.trans (held.draining some_one)

-- `skynet_mq_overload` leaves the messages as they are.
theorem Posted.overload (posted : Posted given mail) (here : mail.queue = some q) : Posted given {mail with queue:=some (mqOverload q).2} := by
  have held := posted.held q here
  obtain ⟨waiting,waits,all,rest⟩ := held.waits
  exact .of_held rfl ⟨held.handle,held.alone,⟨waiting,⟨waits.ring,waits.cap,waits.threshold⟩,all,rest⟩,held.dropped,held.draining⟩

-- A turn of a loop over the messages: there is one, for the one journal or the other, or there is none.
theorem Posted.pop (posted : Posted given mail) (here : mail.queue = some q) :
    (∃ msg after, mqPop q = some (some msg,after) ∧ after.release = q.release ∧
        (q.release = false → Posted given {mail with queue:=some after, dispatched:=mail.dispatched++[msg]}) ∧
        (q.release = true → Posted given {mail with queue:=some after, dropped:=mail.dropped++[msg]})) ∨
      ∃ after, mqPop q = some (none,after) ∧ after.release = q.release ∧ mail.dispatched++mail.dropped = mail.pushed ∧
        (q.release = false → mail.listed+mail.token = 1 → Posted given {mail with queue:=some after, listed:=0, token:=0}) := by
  have held := posted.held q here
  obtain ⟨waiting,waits,all,rest⟩ := held.waits
  cases waiting with
  | nil =>
    obtain ⟨after,ran,waits',kept,outside⟩ := waits.pop_nil
    refine .inr ⟨after,ran,kept.release,by rwa [List.append_nil] at all,fun release one => .of_held rfl ⟨kept.handle.trans held.handle,?_,
      ⟨[],waits',all,fun _ => rfl⟩,fun _ => held.dropped release,fun some_one => ?_⟩⟩
    · rw [outside,kept.release,release]
      rfl
    · cases release.symm.trans (held.draining some_one)
  | cons msg waiting =>
    obtain ⟨after,ran,waits',kept,same_global⟩ := waits.pop_cons
    have inside : after.inGlobal = false → waiting = [] := fun away => (nomatch rest (same_global.symm.trans away))
    have alone : mail.listed+mail.token = if after.inGlobal || after.release then 1 else 0 := by
      rw [same_global,kept.release]
      exact held.alone
    have draining : 0 < mail.draining → after.release = true := by
      rw [kept.release]
      exact held.draining
    refine .inl ⟨msg,after,ran,kept.release,fun release => ?_,fun release => ?_⟩
    · refine .of_held rfl ⟨kept.handle.trans held.handle,alone,⟨waiting,waits',?_,inside⟩,fun _ => held.dropped release,draining⟩
      · dsimp only
        have none_dropped := held.dropped release
        rw [none_dropped,List.append_nil] at all ⊢
        rw [← all,List.append_assoc]
        rfl
    · refine .of_held rfl ⟨kept.handle.trans held.handle,alone,⟨waiting,waits',?_,inside⟩,fun open_queue => ?_,draining⟩
      · dsimp only
        rw [← all]
        simp only [List.append_assoc,List.singleton_append]
      · cases (kept.release.trans release).symm.trans open_queue

theorem Posted.vanish (posted : Posted given mail) (token : 0 < mail.token) (alone : mail.draining ≤ mail.token)
    (all : mail.dispatched++mail.dropped = mail.pushed) :
    mail.listed = 0 ∧ Posted given {mail with queue:=none, token:=mail.token-1, draining:=mail.draining-1} := by
  have once := posted.once
  refine ⟨by omega,fun _ => ⟨?_,?_,?_,all⟩,fun _ impossible => (nomatch impossible)⟩
  all_goals
    dsimp only
    omega

theorem Posted.mark (posted : Posted given mail) (here : mail.queue = some q) (release : q.release = false) :
    Posted given {mail with queue:=some {q with release:=true}, listed:=mail.listed+(if q.inGlobal then 0 else 1)} := by
  have held := posted.held q here
  obtain ⟨waiting,waits,all,rest⟩ := held.waits
  refine .of_held rfl ⟨held.handle,?_,⟨waiting,⟨waits.ring,waits.cap,waits.threshold⟩,all,rest⟩,fun impossible => (nomatch impossible),fun _ => rfl⟩
  have alone := held.alone
  rw [release,Bool.or_false] at alone
  dsimp only
  rw [Bool.or_true,if_pos rfl]
  split at alone <;> simp_all

theorem Posted.create (posted : Posted given mail) (blank : Blank mail) : Posted given {mail with queue:=some (mqCreate given), token:=mail.token+1} := by
  have vanished := posted.vanished blank.queue
  refine .of_held rfl ⟨rfl,?_,⟨[],mqCreate_waits given,?_,fun _ => rfl⟩,fun _ => blank.dropped,fun some_one => ?_⟩
  · dsimp only
    rw [vanished.listed,vanished.token]
    rfl
  · rw [List.append_nil]
    exact vanished.all
  · rw [vanished.draining] at some_one
    exact absurd some_one (Nat.lt_irrefl 0)

end mail

section joined
variable {c : Nat} {life next : Life} {mail later : Mail D} {context : Context} {q after : MessageQueue (SkynetMessage D)}

-- What leaves the context, and does not free it.
theorem Joined.relive (joined : Joined life mail) (freeing : next.freeing = life.freeing) (same : next.context = life.context) : Joined next mail := by
  refine ⟨?_,?_,?_,?_⟩
  · rw [same]
    exact joined.blank
  · rw [same,freeing]
    exact joined.stays
  · rw [same,freeing]
    exact joined.released
  · rw [same,freeing]
    exact joined.opened

-- What changes the context, and not its queue.
theorem Joined.recontext {old : Context} (joined : Joined life mail) (here : life.context = some old) (freeing : next.freeing = life.freeing)
    (there : next.context = some context) (queue : context.queue = old.queue) : Joined next mail := by
  have changed : ∀ other, next.context = some other → other.queue = old.queue := by
    intro other same
    cases there.symm.trans same
    exact queue
  refine ⟨fun other same unborn => ?_,fun other same born none_yet => ?_,fun q stands release => .inr ?_,fun q stands release => ⟨?_,?_⟩⟩
  · exact joined.blank old here ((changed other same).symm.trans unborn)
  · exact joined.stays old here (fun unborn => born ((changed other same).trans unborn)) (freeing.symm.trans none_yet)
  · rcases joined.released q stands release with gone | marked
    · cases here.symm.trans gone
    · exact freeing.trans marked
  · rw [there]
    exact Option.some_ne_none context
  · exact freeing.trans (joined.opened q stands release).2

-- What only moves the queue.
theorem Joined.remail (joined : Joined life mail) {listed token draining : Nat} : Joined life {mail with listed:=listed, token:=token, draining:=draining} := by
  refine ⟨fun context here unborn => ?_,joined.stays,joined.released,joined.opened⟩
  have blank := joined.blank context here unborn
  exact ⟨blank.queue,blank.pushed,blank.dispatched,blank.dropped⟩

-- What does something with the queue, and does not release it.
theorem Joined.requeue (joined : Joined life mail) (here : mail.queue = some q) (there : later.queue = some after) (release : after.release = q.release) :
    Joined life later := by
  refine ⟨fun context alive unborn => ?_,fun context alive born none_yet => ?_,fun other same released => ?_,fun other same opened => ?_⟩
  · cases here.symm.trans (joined.blank context alive unborn).queue
  · obtain ⟨other,same,open_queue⟩ := joined.stays context alive born none_yet
    cases here.symm.trans same
    exact ⟨after,there,release.trans open_queue⟩
  · cases there.symm.trans same
    exact joined.released q here (release.symm.trans released)
  · cases there.symm.trans same
    exact joined.opened q here (release.symm.trans opened)

theorem Joined.vanish (joined : Joined life mail) (here : mail.queue = some q) (release : q.release = true) (none_left : later.queue = none) : Joined life later := by
  refine ⟨fun context alive unborn => ?_,fun context alive _ none_yet => ?_,fun other same => ?_,fun other same => ?_⟩
  · cases here.symm.trans (joined.blank context alive unborn).queue
  · rcases joined.released q here release with gone | freeing
    · cases alive.symm.trans gone
    · omega
  · cases none_left.symm.trans same
  · cases none_left.symm.trans same

theorem Joined.mark (here : life.context = some context) (born : context.queue ≠ none) (freeing : life.freeing = 0) (there : later.queue = some after)
    (release : after.release = true) : Joined {life with freeing:=life.freeing+1} later := by
  refine ⟨fun other same unborn => ?_,fun _ _ _ none_yet => ?_,fun _ _ _ => .inr (by dsimp only; omega),fun q same opened => ?_⟩
  · cases here.symm.trans same
    exact absurd unborn born
  · exact absurd none_yet (Nat.succ_ne_zero _)
  · cases there.symm.trans same
    cases release.symm.trans opened

theorem Joined.free (joined : Joined life mail) (gone : next.context = none) (marked : life.freeing ≠ 0) : Joined next mail :=
  ⟨fun _ here => (nomatch gone.symm.trans here),fun _ here => (nomatch gone.symm.trans here),fun _ _ _ => .inl gone,
    fun q here opened => absurd (joined.opened q here opened).2 marked⟩

theorem Joined.birth (blank : Blank mail) (unborn : ∀ context, next.context = some context → context.queue = none) : Joined next mail := by
  refine ⟨fun _ _ _ => blank,fun context here born => absurd (unborn context here) born,fun q here => ?_,fun q here => ?_⟩
  · cases blank.queue.symm.trans here
  · cases blank.queue.symm.trans here

theorem Joined.create (alive : next.context = some context) (born : context.queue ≠ none) (freeing : next.freeing = 0) (there : later.queue = some after)
    (release : after.release = false) : Joined next later := by
  refine ⟨fun other here unborn => ?_,fun _ _ _ _ => ⟨after,there,release⟩,fun q same released => ?_,fun q same opened => ⟨?_,freeing⟩⟩
  · cases alive.symm.trans here
    exact absurd unborn born
  · cases there.symm.trans same
    cases release.symm.trans released
  · rw [alive]
    exact Option.some_ne_none context

-- What no thread has anything of.
structure Resting (life : Life) (mail : Mail D) : Prop where
  held : life.held = 0
  deleting : life.deleting = 0
  freeing : life.freeing = 0
  creating : life.creating = 0
  creator : life.creator = 0
  listed : mail.listed = 0
  token : mail.token = 0

theorem Sound.settled (sound : Sound c life mail) (resting : Resting life mail) : mail.dispatched++mail.dropped = mail.pushed ∧
    (life.context = none ↔ mail.queue = none) ∧ ∀ context, life.context = some context →
      life.registered ∧ context.ref = 1 ∧ context.init = true ∧ context.queue = some c ∧ context.handle = life.given := by
  have closed : ∀ q, mail.queue = some q → q.inGlobal = false ∧ q.release = false := by
    intro q here
    have alone := (sound.posted.held q here).alone
    rw [resting.listed,resting.token] at alone
    split at alone
    next => cases alone
    next outside => exact Bool.or_eq_false_iff.mp (Bool.eq_false_of_not_eq_true outside)
  have alive : ∀ context, life.context = some context →
      life.registered ∧ context.ref = 1 ∧ context.init = true ∧ context.queue = some c ∧ context.handle = life.given := by
    intro context here
    have living := sound.alive.living context here
    have there : life.registered := by
      by_contra away
      have left := living.deleting
      rw [living.retired away,resting.held,resting.deleting] at left
      cases left
    have counted := living.registered there
    rw [resting.held] at counted
    have init : context.init = true := by
      by_contra not_yet
      have maker := living.init (Bool.eq_false_of_not_eq_true not_yet) there
      rw [resting.creator,resting.creating] at maker
      exact absurd maker (Nat.lt_irrefl 0)
    cases queue : context.queue with
    | none =>
      have one := (living.unborn queue).2.2.1
      rw [resting.held] at one
      cases one
    | some q =>
      obtain ⟨rfl,number,_⟩ := living.born q queue
      exact ⟨there,counted,init,rfl,number⟩
  refine ⟨?_,⟨fun gone => ?_,fun gone => ?_⟩,alive⟩
  · cases here : mail.queue with
    | none => exact (sound.posted.vanished here).all
    | some q =>
      obtain ⟨waiting,_,all,rest⟩ := (sound.posted.held q here).waits
      rw [rest (closed q here).1,List.append_nil] at all
      exact all
  · by_contra some_queue
    obtain ⟨q,here⟩ := Option.ne_none_iff_exists'.mp some_queue
    exact (sound.joined.opened q here (closed q here).2).1 gone
  · by_contra some_context
    obtain ⟨context,here⟩ := Option.ne_none_iff_exists'.mp some_context
    obtain ⟨q,there,_⟩ := sound.joined.stays context here (by simp [(alive context here).2.2.2.1]) resting.freeing
    cases there.symm.trans gone

theorem Sound.move (sound : Sound c life mail) (listed token : Nat) (same : listed+token = mail.listed+mail.token) :
    Sound c life {mail with listed:=listed, token:=token} := ⟨sound.alive,sound.posted.move same,sound.joined.remail⟩

end joined

end OriginGame.Skynet
