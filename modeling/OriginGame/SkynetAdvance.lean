import OriginGame.SkynetFrames

namespace OriginGame.Skynet
variable {D N : Type} [Ord N] {s : Shared D N} {given : Nat → Nat} {frame : Frame D N} {frames others : Multiset (Frame D N)} {q ctx handle : Nat} {weight : Int}

-- What a step comes to: it is done, and all services are sound behind it.
def Advances (s : Shared D N) (frame : Frame D N) (action : Action D N) (others : Multiset (Frame D N)) : Prop :=
  ∃ t frames, advance s frame action = some (t,frames) ∧ ∃ given, Invariant t given (frames.foldr Multiset.cons others)

-- Its queue goes on, and whether its context does decides the reference of who made it.
theorem settling_advances (inv : Invariant s given (.settling ctx q ::ₘ others)) (action : Action D N) : Advances s (.settling ctx q) action others := by
  obtain ⟨same,fits⟩ := Multiset.forall_mem_cons.mp inv.fits
  obtain rfl : ctx = q := Eq.symm same
  obtain ⟨context,mq,here,_,there,_⟩ := inv.open_queue ctx (by simp [Frame.roles]) (by simp [Frame.roles])
  have ctx_lt := inv.lt_of_context here
  have maker : (Frame.retireFailed (given ctx) ctx : Frame D N).Fits s.next given := ⟨ctx_lt,rfl⟩
  have parts : Invariant s given (.release ctx ::ₘ .retireFailed (given ctx) ctx ::ₘ others) := by
    refine inv.reframe (fun c role => ?_) (fit_cons trivial (fit_cons maker fits))
    simp only [tally_cons,Frame.roles,List.count_cons,List.count_nil]
    omega
  obtain ⟨ref,t,ran,next,⟨context',here',counted⟩,kept⟩ := contextRelease_kept parts rfl
  refine ⟨t,if ref == 0 then [.releasing ctx,.globalPush ctx] else [.launched ctx ctx],by simp [advance,ran],given,?_⟩
  by_cases last : ref = 0
  · subst last
    have deleting : Invariant t given (.releasing ctx ::ₘ .retireFailed (given ctx) ctx ::ₘ others) :=
      kept _ (fun role c => by simp [Frame.roles]) (fit_cons trivial (fit_cons maker fits))
    have away : ¬t.storage.Registered ctx := by
      intro registered
      have := ((deleting.sound ctx).alive.living context' here').registered registered
      omega
    rw [Multiset.cons_swap] at deleting
    have given_up := giveUp_kept (.globalPush ctx) deleting (deleting.lt_of_context here') rfl away rfl trivial
    rw [Multiset.cons_swap] at given_up
    exact given_up
  · have more : Invariant t given (.retireFailed (given ctx) ctx ::ₘ others) :=
      kept _ (fun role c => by simp [last]) (fit_cons maker fits)
    have sound := more.sound ctx
    have shape : (ref == 0) = false := by simpa using last
    rw [shape]
    change Invariant t given (.launched ctx ctx ::ₘ others)
    have some_context : t.contexts ctx ≠ none := by
      rw [here']
      exact Option.some_ne_none context'
    exact more.turn (more.lt_of_context here') (fun c apart role => by simp [Frame.roles,apart.symm])
      (fit_cons rfl (fun frame there => by rw [next]; exact fits frame there))
      ⟨sound.alive.await some_context (tally others .window ctx+1),sound.posted,sound.joined.relive rfl rfl⟩
      (by simp [lifeOf,Frame.roles,Nat.add_comm]) (by simp [mailOf,Frame.roles])

theorem launched_advances (inv : Invariant s given (.launched ctx q ::ₘ others)) (action : Action D N) : Advances s (.launched ctx q) action others := by
  obtain ⟨same,fits⟩ := Multiset.forall_mem_cons.mp inv.fits
  obtain rfl : ctx = q := Eq.symm same
  obtain ⟨context,here⟩ := inv.awaited ctx (by simp [Frame.roles])
  have sound := inv.sound ctx
  refine ⟨s.putContext ctx (some {context with init:=true}),[.globalPush ctx,.published ctx],by simp [advance,here],given,?_⟩
  exact inv.near (inv.lt_of_context here) (putContext_local ..) (fun c apart role => by simp [Frame.roles,apart.symm])
    (fit_cons trivial (fit_cons trivial fits))
    ⟨sound.alive.launch here,sound.posted,sound.joined.recontext here rfl rfl rfl⟩
    (by simp [lifeOf,Frame.roles,Shared.putContext]) (by simp [mailOf,Frame.roles,Shared.putContext])

theorem published_advances (inv : Invariant s given (.published ctx ::ₘ others)) (action : Action D N) : Advances s (.published ctx) action others := by
  have fits := inv.rest_fit
  obtain ⟨context,here⟩ := inv.awaited ctx (by simp [Frame.roles])
  have sound := inv.sound ctx
  refine ⟨s,[],by simp [advance,here],given,?_⟩
  have some_context : s.contexts ctx ≠ none := by
    rw [here]
    exact Option.some_ne_none context
  exact inv.turn (inv.lt_of_context here) (fun c apart role => by simp [Frame.roles,apart.symm]) fits
    ⟨sound.alive.await some_context (tally others .window ctx),sound.posted,sound.joined.relive rfl rfl⟩
    (by simp [lifeOf,Frame.roles]) (by simp [mailOf,Frame.roles])

theorem worker_advances (inv : Invariant s given (.worker weight (some q) ::ₘ others)) (action : Action D N) : Advances s (.worker weight (some q)) action others := by
  have fits := inv.rest_fit
  obtain ⟨⟨mq,here⟩,_,_⟩ := inv.owned (x:=q) (tally_pos _ (Multiset.mem_cons_self ..) (by simp [Frame.roles]))
  have q_lt := inv.lt_of_queue here
  have handle : mq.handle = given q := ((inv.sound q).posted.held mq here).handle
  have some_handle : mq.handle ≠ 0 := by
    rw [handle]
    exact inv.number_ne q_lt
  rcases handleGrab_kept inv some_handle with nobody | ⟨ctx,context,finds,grabbed,kept⟩
  · refine ⟨s,[.mqRelease q mq.handle,.worker weight none],by simp [advance,dispatch,here,nobody],given,?_⟩
    refine inv.reframe (fun c role => ?_) (fit_cons ⟨q_lt,handle⟩ (fit_cons trivial fits))
    simp [Frame.roles]
  · obtain rfl : q = ctx := inv.apart q q_lt ctx (inv.lt_of_context finds.here) (handle.symm.trans finds.number)
    refine ⟨s.putContext q (some {context with ref:=context.ref+1}),[.loop weight q q 0 1],by simp [advance,dispatch,here,grabbed],given,?_⟩
    exact serve_kept (kept (.release q) rfl trivial) finds.registered

theorem loop_advances {i n : Nat} (inv : Invariant s given (.loop weight q ctx i n ::ₘ others)) (action : Action D N) :
    Advances s (.loop weight q ctx i n) action others := by
  obtain ⟨same,fits⟩ := Multiset.forall_mem_cons.mp inv.fits
  obtain rfl : ctx = q := Eq.symm same
  obtain ⟨context,mq,here,_,there,release⟩ := inv.open_queue ctx (by simp [Frame.roles]) (by simp [Frame.roles])
  have ctx_lt := inv.lt_of_context here
  have sound := inv.sound ctx
  have alone := inv.owned (x:=ctx) (tally_pos _ (Multiset.mem_cons_self ..) (by simp [Frame.roles]))
  rcases sound.posted.pop there with ⟨msg,after,ran,release',popped,_⟩ | ⟨after,ran,release',_,emptied⟩
  · refine ⟨(s.putQueue ctx (some after)).journalDispatched ctx msg,[.taken weight ctx ctx i n msg],
      by simp [advance,dispatchLoop,there,ran],given,?_⟩
    exact inv.near ctx_lt ((putQueue_local ..).trans (journalDispatched_local ..)) (fun c apart role => by simp [Frame.roles])
      (fit_cons rfl fits) ⟨sound.alive,popped release,sound.joined.requeue there rfl release'⟩
      (by simp [lifeOf,Frame.roles,Shared.putQueue,Shared.journalDispatched]) (by simp [mailOf,Frame.roles,Shared.putQueue,Shared.journalDispatched])
  · refine ⟨s.putQueue ctx (some after),[.release ctx,.worker weight none],
      by simp [advance,dispatchLoop,there,ran],given,?_⟩
    have none_listed : s.globalMq.count ctx = 0 := List.count_eq_zero.mpr alone.2.1
    have none_token : tally others .token ctx = 0 := by
      have one := alone.2.2
      rw [tally_cons] at one
      simp [Frame.roles] at one
      exact one
    have once : (mailOf s (.loop weight ctx ctx i n ::ₘ others) ctx).listed+(mailOf s (.loop weight ctx ctx i n ::ₘ others) ctx).token = 1 := by
      dsimp only [mailOf]
      rw [none_listed,alone.2.2]
    exact inv.near ctx_lt (putQueue_local ..) (fun c apart role => by simp [Frame.roles,apart.symm])
      (fit_cons trivial (fit_cons trivial fits))
      ⟨sound.alive.leave,emptied release once,Joined.requeue (sound.joined.relive rfl rfl) there rfl release'⟩
      (by simp [lifeOf,Frame.roles,Shared.putQueue]) (by simp [mailOf,Frame.roles,Shared.putQueue,none_listed,none_token])

theorem taken_advances {i n : Nat} {msg : SkynetMessage D} (inv : Invariant s given (.taken weight q ctx i n msg ::ₘ others)) (action : Action D N) :
    Advances s (.taken weight q ctx i n msg) action others := by
  obtain ⟨same,fits⟩ := Multiset.forall_mem_cons.mp inv.fits
  obtain rfl : ctx = q := Eq.symm same
  obtain ⟨context,mq,here,_,there,_⟩ := inv.open_queue ctx (by simp [Frame.roles]) (by simp [Frame.roles])
  have sound := inv.sound ctx
  have init : context.init = true :=
    (sound.alive.living context here).serving (tally_pos _ (Multiset.mem_cons_self ..) (by simp [Frame.roles]))
  refine ⟨s.putQueue ctx (some (mqOverload mq).2),[.handling weight ctx ctx i (if i = 0 ∧ 0 ≤ weight then mqLength mq>>>weight.toNat else n) msg],?_,given,?_⟩
  · have here' : (s.putQueue ctx (some (mqOverload mq).2)).contexts ctx = some context := here
    simp only [advance,dispatchMessage,there,here',Option.bind_eq_bind,Option.bind_some,init,↓reduceIte]
  · exact inv.near (inv.lt_of_context here) (putQueue_local ..) (fun c apart role => by simp [Frame.roles]) (fit_cons rfl fits)
      ⟨sound.alive,sound.posted.overload there,sound.joined.requeue there rfl rfl⟩
      (by simp [lifeOf,Frame.roles,Shared.putQueue]) (by simp [mailOf,Frame.roles,Shared.putQueue])

theorem handling_advances {i n : Nat} {msg : SkynetMessage D} (inv : Invariant s given (.handling weight q ctx i n msg ::ₘ others)) (action : Action D N) :
    Advances s (.handling weight q ctx i n msg) action others := by
  obtain ⟨same,fits⟩ := Multiset.forall_mem_cons.mp inv.fits
  cases action with
  | proceed =>
    refine ⟨s,_,rfl,given,inv.reframe (fun c role => ?_) (fit_cons ?_ fits)⟩
    · split <;> simp [Frame.roles]
    · split <;> exact same
  | _ => exact ⟨s,_,rfl,given,call_kept inv _⟩

theorem ending_advances (inv : Invariant s given (.ending weight q ctx ::ₘ others)) (action : Action D N) : Advances s (.ending weight q ctx) action others := by
  obtain ⟨same,fits⟩ := Multiset.forall_mem_cons.mp inv.fits
  obtain rfl : ctx = q := Eq.symm same
  obtain ⟨context,here,queue,_⟩ := inv.holder ctx (by simp [Frame.roles]) (by simp [Frame.roles])
  rcases globalmqPop_kept inv with nobody | ⟨nq,rest,ran,kept⟩
  · refine ⟨s,[.release ctx,.worker weight (some ctx)],?_,given,?_⟩
    · simp only [advance,dispatchEnd,here,queue,nobody,Option.bind_eq_bind,Option.bind_some,ne_eq,not_true_eq_false,↓reduceIte]
    · refine leave_kept inv rfl (fun role c => ?_) (fit_cons trivial (fit_cons trivial fits))
      simp only [List.foldr,tally_cons,Frame.roles,List.count_cons,List.count_nil]
      omega
  · refine ⟨{s with globalMq:=rest},[.globalPush ctx,.release ctx,.worker weight (some nq)],?_,given,?_⟩
    · simp only [advance,dispatchEnd,here,queue,ran,Option.bind_eq_bind,Option.bind_some,ne_eq,not_true_eq_false,↓reduceIte]
    · have popped := kept (.worker weight (some nq)) rfl trivial
      rw [Multiset.cons_swap] at popped
      refine leave_kept popped rfl (fun role c => ?_)
        (fit_cons trivial (fit_cons trivial (fit_cons trivial fits)))
      simp only [List.foldr,tally_cons,Frame.roles,List.count_cons,List.count_nil]
      omega

theorem mqRelease_advances (inv : Invariant s given (.mqRelease q handle ::ₘ others)) (action : Action D N) : Advances s (.mqRelease q handle) action others := by
  obtain ⟨own,fits⟩ := Multiset.forall_mem_cons.mp inv.fits
  obtain ⟨⟨mq,here⟩,_,_⟩ := inv.owned (x:=q) (tally_pos _ (Multiset.mem_cons_self ..) (by simp [Frame.roles]))
  cases release : mq.release with
  | false =>
    obtain ⟨ran,kept⟩ := globalmqPush_kept inv rfl
    exact ⟨_,[],by simp only [advance,mqRelease,here,release,ran,Option.bind_eq_bind,Option.bind_some,Bool.false_eq_true,↓reduceIte],given,kept⟩
  | true =>
    have sound := inv.sound q
    refine ⟨s,[.draining q handle],by simp only [advance,mqRelease,here,release,Option.bind_eq_bind,Option.bind_some,↓reduceIte],given,?_⟩
    exact inv.turn own.1 (fun c apart role => by simp [Frame.roles,apart.symm]) (fit_cons own fits)
      ⟨sound.alive,sound.posted.drain here release,sound.joined.remail⟩ (by simp [lifeOf,Frame.roles]) (by simp [mailOf,Frame.roles,Nat.add_comm])

-- What dropping a message leads to is nothing, or to send an error to where it came from.
theorem dropMessage_kept {back : Frame D N} (msg : SkynetMessage D) (inv : Invariant s given (back ::ₘ others)) (some_handle : handle ≠ 0) :
    ∃ sends : List (Frame D N), dropMessage handle msg = some sends ∧ Invariant s given ((sends++[back]).foldr Multiset.cons others) := by
  unfold dropMessage
  rw [if_neg some_handle]
  by_cases nobody : msg.source = 0
  · rw [if_pos nobody]
    exact ⟨[],rfl,inv⟩
  · rw [if_neg nobody]
    refine ⟨_,rfl,inv.reframe (fun c role => ?_) (fit_cons nobody inv.fits)⟩
    simp [Frame.roles]

theorem draining_advances (inv : Invariant s given (.draining q handle ::ₘ others)) (action : Action D N) : Advances s (.draining q handle) action others := by
  obtain ⟨own,fits⟩ := Multiset.forall_mem_cons.mp inv.fits
  obtain ⟨⟨mq,here⟩,outside,one⟩ := inv.owned (x:=q) (tally_pos _ (Multiset.mem_cons_self ..) (by simp [Frame.roles]))
  have sound := inv.sound q
  have some_handle : handle ≠ 0 := by
    rw [own.2]
    exact inv.number_ne own.1
  have release : mq.release = true := (sound.posted.held mq here).draining (tally_pos _ (Multiset.mem_cons_self ..) (by simp [Frame.roles]))
  rcases sound.posted.pop here with ⟨msg,after,ran,release',_,dropped⟩ | ⟨after,ran,_,all,_⟩
  · have kept : Invariant ((s.putQueue q (some after)).journalDropped q msg) given (.draining q handle ::ₘ others) :=
      inv.near own.1 ((putQueue_local ..).trans (journalDropped_local ..)) (fun _ _ _ => rfl) inv.fits
        ⟨sound.alive,dropped release,sound.joined.requeue here rfl release'⟩ rfl (by simp [mailOf,Shared.putQueue,Shared.journalDropped])
    obtain ⟨sends,sent,back⟩ := dropMessage_kept msg kept some_handle
    refine ⟨(s.putQueue q (some after)).journalDropped q msg,sends++[.draining q handle],?_,given,back⟩
    simp only [advance,dropQueue,here,ran,sent,Option.bind_eq_bind,Option.bind_some]
  · have alone : tally (.draining q handle ::ₘ others) .draining q ≤ tally (.draining q handle ::ₘ others) .token q := (bounds _ q).draining
    obtain ⟨_,vanished⟩ := sound.posted.vanish (by change 0 < tally _ _ _; omega) alone all
    refine ⟨s.putQueue q none,[],by simp only [advance,dropQueue,here,ran,Option.bind_eq_bind,Option.bind_some,if_neg outside],given,?_⟩
    exact inv.near own.1 (putQueue_local ..) (fun c apart role => by simp [Frame.roles,apart.symm]) fits
      ⟨sound.alive,vanished,sound.joined.vanish here release rfl⟩
      (by simp [lifeOf,Frame.roles,Shared.putQueue]) (by simp [mailOf,Frame.roles,Shared.putQueue])

theorem push_advances {msg : SkynetMessage D} (inv : Invariant s given (.push handle msg ::ₘ others)) (action : Action D N) :
    Advances s (.push handle msg) action others := by
  have idle : Invariant s given others := inv.reframe (fun c role => by simp [Frame.roles]) inv.rest_fit
  rcases handleGrab_kept idle inv.first_fits with nobody | ⟨ctx,context,_,ran,kept⟩
  · exact ⟨s,[],by simp [advance,nobody],given,idle⟩
  · exact ⟨_,[.pushing ctx msg],by simp [advance,ran],given,kept (.pushing ctx msg) rfl trivial⟩

theorem endless_advances (inv : Invariant s given (.endless handle ::ₘ others)) (action : Action D N) : Advances s (.endless handle) action others := by
  have idle : Invariant s given others := inv.reframe (fun c role => by simp [Frame.roles]) inv.rest_fit
  rcases handleGrab_kept idle inv.first_fits with nobody | ⟨ctx,context,_,ran,kept⟩
  · exact ⟨s,[],by simp [advance,nobody],given,idle⟩
  · exact ⟨_,[.release ctx],by simp [advance,ran],given,kept (.release ctx) rfl trivial⟩

theorem release_advances (inv : Invariant s given (.release ctx ::ₘ others)) (action : Action D N) : Advances s (.release ctx) action others := by
  have fits := inv.rest_fit
  obtain ⟨ref,t,ran,_,_,kept⟩ := contextRelease_kept inv rfl
  refine ⟨t,if ref == 0 then [.releasing ctx] else [],by simp [advance,ran],given,?_⟩
  by_cases last : ref = 0
  · subst last
    exact kept _ (fun role c => by simp [Frame.roles]) (fit_cons trivial fits)
  · have shape : (ref == 0) = false := by simpa using last
    rw [shape]
    exact kept _ (fun role c => by simp [last]) fits

theorem retire_advances (inv : Invariant s given (.retire handle ::ₘ others)) (action : Action D N) : Advances s (.retire handle) action others := by
  have idle : Invariant s given others := inv.reframe (fun c role => by simp [Frame.roles]) inv.rest_fit
  obtain ⟨found,t,ran,_,_,nobody,somebody⟩ := contextRetire_kept idle inv.first_fits
  refine ⟨t,found.toList.map .release,by simp [advance,ran],given,?_⟩
  cases found with
  | none =>
    rw [(nobody rfl).1]
    exact idle
  | some ctx => exact (somebody ctx rfl).2.2.2 (.release ctx) rfl trivial

-- The one that made a service without success retires it first, then leaves its queue.
theorem retireFailed_advances (inv : Invariant s given (.retireFailed handle q ::ₘ others)) (action : Action D N) : Advances s (.retireFailed handle q) action others := by
  obtain ⟨⟨q_lt,same⟩,fits⟩ := Multiset.forall_mem_cons.mp inv.fits
  obtain ⟨⟨mq,there⟩,_,_⟩ := inv.owned (x:=q) (tally_pos _ (Multiset.mem_cons_self ..) (by simp [Frame.roles]))
  have some_handle : handle ≠ 0 := by
    rw [same]
    exact inv.number_ne q_lt
  obtain ⟨found,t,ran,next,_,nobody,somebody⟩ := contextRetire_kept inv some_handle
  have back : ∀ t : Shared D N, t.next = s.next → (Frame.mqRelease q handle : Frame D N).Fits t.next given := by
    intro t next
    rw [next]
    exact ⟨q_lt,same⟩
  refine ⟨t,found.toList.map .release++[.mqRelease q handle],by simp [advance,ran],given,?_⟩
  cases found with
  | none =>
    obtain ⟨rfl,absent⟩ := nobody rfl
    have away : ¬t.storage.Registered q := by
      intro registered
      obtain ⟨context,here⟩ := inv.registered registered
      have sound := inv.sound q
      refine absent q same ?_ registered
      rw [Shared.contextHandle,here,Option.map_some]
      cases queue : context.queue with
      | none => cases there.symm.trans (sound.joined.blank context here queue).queue
      | some other => rw [((sound.alive.living context here).born other queue).2.1]; rfl
    exact giveUp_kept _ inv q_lt rfl away rfl (back t rfl)
  | some ctx =>
    obtain ⟨number,ctx_lt,away,kept⟩ := somebody ctx rfl
    obtain rfl : q = ctx := inv.apart q q_lt ctx ctx_lt (same.symm.trans number)
    have retired := kept (.release q) rfl trivial
    rw [Multiset.cons_swap] at retired
    have given_up := giveUp_kept (.mqRelease q handle) retired (by rw [next]; exact q_lt) rfl away rfl (back t next)
    rw [Multiset.cons_swap] at given_up
    exact given_up

theorem releasing_advances (inv : Invariant s given (.releasing ctx ::ₘ others)) (action : Action D N) : Advances s (.releasing ctx) action others := by
  cases action with
  | proceed =>
    obtain ⟨context,here,_⟩ := inv.deleter ctx (by simp [Frame.roles])
    refine ⟨s,[.markRelease ctx],by simp [advance,here],given,?_⟩
    exact inv.reframe (fun c role => by simp [Frame.roles]) (fit_cons trivial inv.rest_fit)
  | _ => exact ⟨s,_,rfl,given,call_kept inv _⟩

theorem initing_advances (inv : Invariant s given (.initing ctx ::ₘ others)) (action : Action D N) : Advances s (.initing ctx) action others := by
  have fits := inv.rest_fit
  obtain ⟨context,here,queue,_⟩ := inv.holder ctx (by simp [Frame.roles]) (by simp [Frame.roles])
  cases action with
  | proceed =>
    refine ⟨s,[.settling ctx ctx],by simp [advance,here,queue],given,?_⟩
    exact inv.reframe (fun c role => by simp [Frame.roles]) (fit_cons rfl fits)
  | fail =>
    refine ⟨s,[.release ctx,.retireFailed context.handle ctx],by simp [advance,here,queue],given,?_⟩
    have own := (((inv.sound ctx).alive.living context here).born ctx queue).2.1
    refine inv.reframe (fun c role => ?_) (fit_cons trivial (fit_cons ⟨inv.lt_of_context here,own⟩ fits))
    simp only [List.foldr,tally_cons,Frame.roles,List.count_cons,List.count_nil]
    omega
  | _ => exact ⟨s,_,rfl,given,call_kept inv _⟩

section names
variable [Std.TransOrd N] [Std.LawfulEqOrd N]

theorem naming_advances {name : N} (inv : Invariant s given (.naming handle name ::ₘ others)) (action : Action D N) : Advances s (.naming handle name) action others := by
  classical
  have fits := inv.rest_fit
  obtain ⟨meaning,means⟩ := inv.names.means
  obtain ⟨names,ran,means'⟩ := insertName_means means name handle
  refine ⟨{s with storage:={s.storage with name:=names}},[],by simp [advance,ran],given,?_⟩
  have stored := inv.stored
  refine ⟨⟨stored.size,stored.harbor,stored.index,stored.placed,stored.below⟩,means'.ordered,inv.numbered,inv.apart,fun c high => ?_,fits,fun c => ?_⟩
  · have old := inv.fresh c high
    exact ⟨old.context,old.queue,old.pushed,old.dispatched,old.dropped⟩
  · exact Same.sound (inv.sound c) ⟨rfl,rfl,.rfl,rfl,rfl,rfl,rfl⟩ rfl (fun role => by simp [Frame.roles])

-- What `Careful` asks for before a step of this frame.
def Watched (s : Shared D N) (frame : Frame D N) (others : Multiset (Frame D N)) : Prop := match frame with
  | .launch => s.storage.handleIndex+s.storage.slot.length*2 ≤ 2^24 ∧
      (s.storage.Full → ∀ ctx, s.storage.Registered ctx → s.contextHandle ctx ≠ some 0)
  | .free ctx => ∀ frame ∈ others, frame.awaits ≠ some ctx
  | _ => True

-- Every step is done, from any frame on: nothing that was freed is read or freed again, and no assertion fails.
theorem advance_kept (inv : Invariant s given (frame ::ₘ others)) (watched : Watched s frame others) (action : Action D N) : Advances s frame action others := by
  cases frame with
  | outside => exact ⟨s,_,rfl,given,call_kept inv action⟩
  | worker weight q =>
    cases q with
    | some q => exact worker_advances inv action
    | none =>
      have idle : Invariant s given others := inv.reframe (fun c role => by simp [Frame.roles]) inv.rest_fit
      rcases globalmqPop_kept idle with nobody | ⟨q,rest,ran,kept⟩
      · exact ⟨s,[.worker weight none],by simp [advance,dispatch,nobody],given,inv⟩
      · exact ⟨_,[.worker weight (some q)],by simp [advance,dispatch,ran],given,
          kept (.worker weight (some q)) rfl trivial⟩
  | loop weight q ctx i n => exact loop_advances inv action
  | taken weight q ctx i n msg => exact taken_advances inv action
  | handling weight q ctx i n msg => exact handling_advances inv action
  | ending weight q ctx => exact ending_advances inv action
  | globalPush q =>
    obtain ⟨ran,kept⟩ := globalmqPush_kept inv rfl
    exact ⟨_,[],by simp [advance,ran],given,kept⟩
  | push handle msg => exact push_advances inv action
  | pushing ctx msg =>
    obtain ⟨t,ran,kept⟩ := contextPush_kept inv
    exact ⟨t,[.release ctx],by simp [advance,ran],given,kept⟩
  | release ctx => exact release_advances inv action
  | releasing ctx => exact releasing_advances inv action
  | markRelease ctx =>
    obtain ⟨t,ran,kept⟩ := markRelease_kept inv
    exact ⟨t,[.free ctx],by simp [advance,ran],given,kept⟩
  | free ctx =>
    obtain ⟨here,kept⟩ := free_kept inv watched
    obtain ⟨context,here⟩ := Option.ne_none_iff_exists'.mp here
    exact ⟨_,[],by simp [advance,here],given,kept⟩
  | retire handle => exact retire_advances inv action
  | launch =>
    obtain ⟨handle,t,given',ran,kept⟩ := contextNew_kept inv watched.1 watched.2
    exact ⟨t,[.creating s.next handle],by simp [advance,ran],given',kept⟩
  | creating ctx handle =>
    obtain ⟨context,here,kept⟩ := create_kept inv
    exact ⟨_,[.initing ctx],by simp [advance,here],given,kept⟩
  | initing ctx => exact initing_advances inv action
  | settling ctx q => exact settling_advances inv action
  | launched ctx q => exact launched_advances inv action
  | published ctx => exact published_advances inv action
  | retireFailed handle q => exact retireFailed_advances inv action
  | mqRelease q handle => exact mqRelease_advances inv action
  | draining q handle => exact draining_advances inv action
  | naming handle name => exact naming_advances inv action
  | endless handle => exact endless_advances inv action

end names

end OriginGame.Skynet
