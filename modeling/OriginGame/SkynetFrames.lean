import OriginGame.SkynetSteps

namespace OriginGame.Skynet
variable {D N : Type} [Ord N] {s : Shared D N} {given : Nat → Nat} {frame : Frame D N} {frames others : Multiset (Frame D N)} {q ctx x handle : Nat} {weight : Int}

omit [Ord N] in
-- What is called has nothing of any service yet.
theorem call_cases (action : Action D N) (back : Frame D N) : call action back = [back] ∨
    ∃ called : Frame D N, call action back = [called,back] ∧ called.roles = [] ∧ ∀ next given, called.Fits next given := by
  cases action with
  | proceed => exact .inl rfl
  | fail => exact .inl rfl
  | launch => exact .inr ⟨.launch,rfl,rfl,fun _ _ => trivial⟩
  | send handle | kill handle | name handle | endless handle =>
    by_cases nobody : handle = 0
    · exact .inl (if_pos nobody)
    · exact .inr ⟨_,if_neg nobody,rfl,fun _ _ => by first | exact nobody | trivial⟩

theorem call_kept (inv : Invariant s given (frame ::ₘ others)) (action : Action D N) : Invariant s given ((call action frame).foldr Multiset.cons others) := by
  rcases call_cases action frame with same | ⟨called,same,none_there,fits⟩
  · rwa [same]
  · rw [same]
    refine inv.reframe (fun c role => ?_) (fit_cons (fits _ _) inv.fits)
    rw [List.foldr_cons,tally_cons,none_there,List.count_nil,Nat.zero_add]
    rfl

theorem globalmqPush_kept (inv : Invariant s given (frame ::ₘ others)) (role : frame.roles = [(.token,q)]) :
    s.globalmqPush q = some {s with globalMq:=s.globalMq++[q]} ∧ Invariant {s with globalMq:=s.globalMq++[q]} given others := by
  have fits := inv.rest_fit
  obtain ⟨⟨mq,here⟩,outside,_⟩ := inv.owned (x:=q) (by rw [tally_cons,role,List.count_singleton_self]; omega)
  refine ⟨globalmqPush_done inv.listed here outside,?_⟩
  refine inv.near (inv.lt_of_queue here) (globalMq_local s (fun c apart => count_concat_ne _ apart)) (fun c apart other => ?_) fits
    ((inv.sound q).move (s.globalMq.count q+1) (tally others .token q) ?_) (by simp [lifeOf,role]) (by simp [mailOf,role])
  · simp [role,apart.symm]
  · simp [mailOf,role]
    omega

-- The queue that was the first of the global one gets a thread of its own.
theorem globalmqPop_kept (inv : Invariant s given frames) : s.globalmqPop = some (none,s) ∨
    ∃ q rest, s.globalmqPop = some (some q,{s with globalMq:=rest}) ∧ (∀ owner : Frame D N, owner.roles = [(.token,q)] → owner.Fits s.next given →
      Invariant {s with globalMq:=rest} given (owner ::ₘ frames)) := by
  unfold Shared.globalmqPop
  cases listed : s.globalMq with
  | nil => exact .inl rfl
  | cons q rest =>
    obtain ⟨mq,here⟩ := inv.listed q (by rw [listed]; exact List.mem_cons_self)
    refine .inr ⟨q,rest,by dsimp only; rw [here]; rfl,fun owner role fit => ?_⟩
    refine inv.near (inv.lt_of_queue here) (globalMq_local s (fun c apart => ?_)) (fun c apart other => ?_) (fit_cons fit inv.fits)
      ((inv.sound q).move (rest.count q) (1+tally frames .token q) ?_) (by simp [lifeOf,role]) (by simp [mailOf,role])
    · rw [listed,List.count_cons_of_ne apart.symm]
    · simp [role,apart.symm]
    · simp [mailOf,listed]
      omega

-- A registered service is there.
theorem Invariant.registered (inv : Invariant s given frames) (there : s.storage.Registered ctx) : ∃ context, s.contexts ctx = some context := by
  cases here : s.contexts ctx with
  | none => exact absurd there ((inv.sound ctx).alive.gone here).registered
  | some context => exact ⟨context,rfl⟩

-- What a handle that is not 0 finds: a service that was given it, and has stored it.
structure Finds (s : Shared D N) (given : Nat → Nat) (handle ctx : Nat) (context : Context) : Prop where
  here : s.contexts ctx = some context
  registered : s.storage.Registered ctx
  queue : context.queue = some ctx
  number : handle = given ctx
  handle : context.handle = handle

theorem Invariant.find (inv : Invariant s given frames) (some_handle : handle ≠ 0) :
    ∃ found, handleFind s.contextHandle handle s.storage = some found ∧ ∀ ctx, found = some ctx → ∃ context, Finds s given handle ctx context := by
  obtain ⟨found,ran,right⟩ := handleFind_spec s.contextHandle (s:=s.storage) (fun ctx there => by
    obtain ⟨context,here⟩ := inv.registered there
    rw [Shared.contextHandle,here]
    rfl) handle
  refine ⟨found,ran,fun ctx same => ?_⟩
  obtain ⟨there,reads⟩ := right ctx same
  obtain ⟨context,here⟩ := inv.registered there
  have has : context.handle = handle := by
    rw [Shared.contextHandle,here] at reads
    exact Option.some.inj reads
  have living := (inv.sound ctx).alive.living context here
  cases queue : context.queue with
  | none => exact absurd (has.symm.trans (living.unborn queue).1) some_handle
  | some q =>
    obtain ⟨rfl,own,_⟩ := living.born q queue
    exact ⟨context,here,there,queue,has.symm.trans own,has⟩

theorem handleGrab_kept (inv : Invariant s given frames) (some_handle : handle ≠ 0) : s.handleGrab handle = some (none,s) ∨
    ∃ ctx context, Finds s given handle ctx context ∧ s.handleGrab handle = some (some ctx,s.putContext ctx (some {context with ref:=context.ref+1})) ∧
      ∀ holder : Frame D N, holder.roles = [(.held,ctx)] → holder.Fits s.next given →
        Invariant (s.putContext ctx (some {context with ref:=context.ref+1})) given (holder ::ₘ frames) := by
  unfold Shared.handleGrab
  obtain ⟨found,ran,right⟩ := inv.find some_handle
  rw [ran]
  cases found with
  | none => exact .inl rfl
  | some ctx =>
    obtain ⟨context,finds⟩ := right ctx rfl
    have here := finds.here
    refine .inr ⟨ctx,context,finds,by simp only [here,Option.bind_eq_bind,Option.bind_some],fun holder role fit => ?_⟩
    have sound := inv.sound ctx
    have born : context.queue ≠ none := by simp [finds.queue]
    exact inv.near (inv.lt_of_context here) (putContext_local ..) (fun c apart other => by simp [role,apart.symm]) (fit_cons fit inv.fits)
      ⟨sound.alive.grab here finds.registered born,sound.posted,sound.joined.recontext here rfl rfl rfl⟩
      (by simp [lifeOf,role,Shared.putContext,Nat.add_comm]) (by simp [mailOf,role,Shared.putContext])

-- Who holds a reference, and does not make the service, holds one that is born.
theorem Invariant.holder (inv : Invariant s given (frame ::ₘ others)) (ctx : Nat) (role : (.held,ctx) ∈ frame.roles) (other : (.creating,ctx) ∉ frame.roles) :
    ∃ context, s.contexts ctx = some context ∧ context.queue = some ctx ∧ 0 < context.ref := by
  have sound := inv.sound ctx
  have own : 0 < frame.roles.count (.held,ctx) := List.count_pos_iff.mpr role
  have positive : 0 < (lifeOf s given (frame ::ₘ others) ctx).held := tally_pos frame (Multiset.mem_cons_self ..) role
  cases here : s.contexts ctx with
  | none => exact absurd (sound.alive.gone here).held (Nat.ne_of_gt positive)
  | some context =>
    have living := sound.alive.living context here
    refine ⟨context,rfl,?_,living.ref_pos positive⟩
    cases queue : context.queue with
    | none =>
      obtain ⟨_,_,held,creating⟩ := living.unborn queue
      dsimp only [lifeOf] at held creating
      rw [tally_cons] at held creating
      rw [List.count_eq_zero_of_not_mem other] at creating
      have := (bounds others ctx).creating
      omega
    | some q => rw [(living.born q queue).1]

-- A reference is given up, and the last one leads to the deletion.
theorem contextRelease_kept (inv : Invariant s given (frame ::ₘ others)) (role : frame.roles = [(.held,ctx)]) :
    ∃ ref t, s.contextRelease ctx = some (ref == 0,t) ∧ t.next = s.next ∧ (∃ context, t.contexts ctx = some context ∧ context.ref = ref) ∧
      ∀ later : Multiset (Frame D N), (∀ role c, tally later role c = (if ref = 0 then [(Role.deleting,ctx)] else []).count (role,c)+tally others role c) →
        (∀ frame ∈ later, frame.Fits s.next given) → Invariant t given later := by
  obtain ⟨context,here,queue,positive⟩ := inv.holder ctx (by rw [role]; exact List.mem_cons_self) (by simp [role])
  obtain ⟨ref,counted⟩ : ∃ ref, context.ref = ref+1 := ⟨context.ref-1,by omega⟩
  have born : context.queue ≠ none := by simp [queue]
  refine ⟨ref,s.putContext ctx (some {context with ref:=ref}),?_,rfl,⟨_,Function.update_self ..,rfl⟩,fun later tallies fits => ?_⟩
  · unfold Shared.contextRelease
    rw [here]
    simp only [counted,Option.bind_eq_bind,Option.bind_some]
  have sound := inv.sound ctx
  refine inv.near (inv.lt_of_context here) (putContext_local ..) (fun c apart other => ?_) fits
    ⟨sound.alive.drop here born (tally_pos frame (Multiset.mem_cons_self ..) (by simp [role])) counted,sound.posted,sound.joined.recontext here rfl rfl rfl⟩ ?_ ?_
  · split at tallies <;> simp [tallies,role,apart.symm]
  · by_cases last : ref = 0 <;> simp [lifeOf,tallies,role,last,Shared.putContext,Nat.add_comm]
  · split at tallies <;> simp [mailOf,tallies,role,Shared.putContext]

-- A service that is retired leaves a reference to who retires it.
theorem contextRetire_kept (inv : Invariant s given frames) (some_handle : handle ≠ 0) :
    ∃ found t, s.contextRetire handle = some (found,t) ∧ t.next = s.next ∧ t.contexts = s.contexts ∧
      (found = none → t = s ∧ ∀ ctx, handle = given ctx → s.contextHandle ctx = some (given ctx) → ¬s.storage.Registered ctx) ∧
      ∀ ctx, found = some ctx → handle = given ctx ∧ ctx < s.next ∧ ¬t.storage.Registered ctx ∧
        ∀ holder : Frame D N, holder.roles = [(.held,ctx)] → holder.Fits s.next given → Invariant t given (holder ::ₘ frames) := by
  unfold Shared.contextRetire handleRetire
  obtain ⟨found,ran,right⟩ := inv.find some_handle
  rw [ran]
  cases found with
  | none =>
    refine ⟨none,s,rfl,rfl,rfl,fun _ => ⟨rfl,fun ctx same reads there => ?_⟩,fun _ impossible => (nomatch impossible)⟩
    rw [same,handleFind_given inv.stored there reads] at ran
    cases ran
  | some ctx =>
    obtain ⟨context,finds⟩ := right ctx rfl
    have here := finds.here
    have place : s.storage.slot.find (s.storage.hash (given ctx)) = some ctx := by
      obtain ⟨i,there⟩ := finds.registered
      rwa [← inv.stored.placed i ctx there]
    have stored := retire_stored inv.stored place (s.storage.name.filter (fun one => one.2 ≠ handle))
    rw [← finds.number] at stored
    refine ⟨some ctx,_,rfl,rfl,rfl,fun impossible => (nomatch impossible),fun other same => ?_⟩
    cases same
    refine ⟨finds.number,inv.lt_of_context here,fun there => ((stored.2 ctx).mp there).2 rfl,fun holder role fit => ?_⟩
    refine inv.touch (inv.lt_of_context here) rfl stored.1 (inv.names.filter _) rfl rfl (fun c apart => ?_) (fun c apart other => ?_)
      (fit_cons fit inv.fits) ?_
    · exact ⟨rfl,rfl,(stored.2 c).trans (and_iff_left apart),rfl,rfl,rfl,rfl⟩
    · simp [role,apart.symm]
    · have sound := inv.sound ctx
      have born : context.queue ≠ none := by simp [finds.queue]
      have away := (stored.2 ctx).trans (iff_false_intro (fun both => both.2 rfl))
      have retired : Sound ctx _ _ := ⟨sound.alive.retire here born finds.registered,sound.posted,sound.joined.relive rfl rfl⟩
      convert retired using 1
      · simp only [lifeOf,tally_cons,role,away]
        simp [Nat.add_comm]
      · simp [mailOf,role]

-- Who made a service that is not registered leaves it.
theorem giveUp_kept (back : Frame D N) (inv : Invariant s given (frame ::ₘ others)) (x_lt : x < s.next) (role : frame.roles = [(.token,x),(.creator,x)])
    (away : ¬s.storage.Registered x) (role' : back.roles = [(.token,x)]) (fit : back.Fits s.next given) : Invariant s given (back ::ₘ others) := by
  have fits := inv.rest_fit
  have sound := inv.sound x
  exact inv.turn x_lt (fun c apart other => by simp [role,role',apart.symm]) (fit_cons fit fits)
    ⟨sound.alive.giveUp away,sound.posted,sound.joined.relive rfl rfl⟩ (by simp [lifeOf,role,role']) (by simp [mailOf,role,role'])

-- The one who deletes is alone, and has the queue still.
theorem Invariant.deleter (inv : Invariant s given (frame ::ₘ others)) (ctx : Nat) (role : (.deleting,ctx) ∈ frame.roles) :
    ∃ context, s.contexts ctx = some context ∧ context.queue = some ctx ∧ context.ref = 0 ∧ tally others .deleting ctx = 0 := by
  have own : 0 < frame.roles.count (.deleting,ctx) := List.count_pos_iff.mpr role
  have sound := inv.sound ctx
  have positive : 0 < (lifeOf s given (frame ::ₘ others) ctx).deleting := tally_pos frame (Multiset.mem_cons_self ..) role
  cases here : s.contexts ctx with
  | none => exact absurd (sound.alive.gone here).deleting (Nat.ne_of_gt positive)
  | some context =>
    have living := sound.alive.living context here
    have counted := living.deleting
    split at counted
    next last =>
      refine ⟨context,rfl,?_,last,?_⟩
      · cases queue : context.queue with
        | none =>
          have unborn := living.unborn queue
          have := living.registered unborn.2.1
          omega
        | some q => rw [(living.born q queue).1]
      · dsimp only [lifeOf] at counted
        rw [tally_cons] at counted
        omega
    next => omega

theorem markRelease_kept (inv : Invariant s given (.markRelease ctx ::ₘ others)) :
    ∃ t, markRelease s ctx = some t ∧ Invariant t given (.free ctx ::ₘ others) := by
  have fits := inv.rest_fit
  obtain ⟨context,here,queue,last,alone⟩ := inv.deleter ctx (by simp [Frame.roles])
  have sound := inv.sound ctx
  have born : context.queue ≠ none := by simp [queue]
  have none_yet : tally others .freeing ctx = 0 := by
    have := (bounds others ctx).freeing
    omega
  obtain ⟨mq,there,release⟩ := sound.joined.stays context here born (by simp [lifeOf,Frame.roles,none_yet])
  change s.queues ctx = some mq at there
  have marked := sound.posted.mark there release
  have alive := sound.alive.mark (by simp [lifeOf,Frame.roles,none_yet]) (by simp only [lifeOf,tally_cons,Frame.roles,List.count_singleton_self]; omega)
  have held := sound.posted.held mq there
  have outside : mq.inGlobal = false → ctx ∉ s.globalMq := held.outside release
  refine ⟨{s.putQueue ctx (some {mq with release:=true}) with globalMq:=woken s mq.inGlobal ctx},?_,?_⟩
  · unfold markRelease
    simp only [here,queue,there,release,Option.bind_eq_bind,Option.bind_some,Bool.false_eq_true,↓reduceIte]
    exact wake_done (listed_put inv.listed ctx {mq with release:=true}) (Function.update_self ..) outside
  · exact inv.near (inv.lt_of_context here) ((putQueue_local ..).trans (globalMq_local _ (fun c apart => count_woken_ne apart)))
      (fun c apart other => by simp [Frame.roles,apart.symm]) (fit_cons trivial fits)
      ⟨alive,marked,.mark here born (by simp [lifeOf,Frame.roles,none_yet]) rfl rfl⟩
      (by simp [lifeOf,Frame.roles,Shared.putQueue,Nat.add_comm]) (by simp [mailOf,Frame.roles,Shared.putQueue,count_woken])

-- As long as there is a reference, the queue is there and open.
theorem Invariant.open_queue (inv : Invariant s given (frame ::ₘ others)) (ctx : Nat) (role : (.held,ctx) ∈ frame.roles) (other : (.creating,ctx) ∉ frame.roles) :
    ∃ context mq, s.contexts ctx = some context ∧ context.queue = some ctx ∧ s.queues ctx = some mq ∧ mq.release = false := by
  obtain ⟨context,here,queue,positive⟩ := inv.holder _ role other
  have sound := inv.sound ctx
  have counted := (sound.alive.living context here).deleting
  rw [if_neg (by omega)] at counted
  obtain ⟨mq,there,release⟩ := sound.joined.stays context here (by rw [queue]; exact Option.some_ne_none ctx) (Nat.le_zero.mp (counted ▸ sound.alive.freeing))
  exact ⟨context,mq,here,queue,there,release⟩

theorem contextPush_kept {msg : SkynetMessage D} (inv : Invariant s given (.pushing ctx msg ::ₘ others)) :
    ∃ t, contextPush s ctx msg = some t ∧ Invariant t given (.release ctx ::ₘ others) := by
  have fits := inv.rest_fit
  obtain ⟨context,mq,here,queue,there,release⟩ := inv.open_queue ctx (by simp [Frame.roles]) (by simp [Frame.roles])
  have sound := inv.sound ctx
  obtain ⟨after,ran,release',pushed⟩ := sound.posted.push msg there release
  have outside := (sound.posted.held mq there).outside release
  refine ⟨{(s.putQueue ctx (some after)).journalPushed ctx msg with globalMq:=woken s mq.inGlobal ctx},?_,?_⟩
  · unfold contextPush
    simp only [here,queue,there,ran,Option.bind_eq_bind,Option.bind_some]
    have woke := wake_done (t:=(s.putQueue ctx (some after)).journalPushed ctx msg) (listed_put inv.listed ctx after) (Function.update_self ..) outside
    cases global : mq.inGlobal with
    | true =>
      rw [global] at woke
      exact woke
    | false =>
      rw [global] at woke
      exact woke
  · exact inv.near (inv.lt_of_context here) (((putQueue_local ..).trans (journalPushed_local ..)).trans (globalMq_local _ (fun c apart => count_woken_ne apart)))
      (fun c apart other => by simp [Frame.roles]) (fit_cons trivial fits)
      ⟨sound.alive,pushed,sound.joined.requeue there rfl (release'.trans release.symm)⟩
      (by simp [lifeOf,Frame.roles,Shared.putQueue,Shared.journalPushed]) (by simp [mailOf,Frame.roles,Shared.putQueue,Shared.journalPushed,count_woken])

omit [Ord N] in
theorem tally_window (frames : Multiset (Frame D N)) (nobody : ∀ frame ∈ frames, frame.awaits ≠ some ctx) : tally frames .window ctx = 0 := by
  induction frames using Multiset.induction with
  | empty => rfl
  | cons frame others ih =>
    obtain ⟨first,rest⟩ := Multiset.forall_mem_cons.mp nobody
    rw [tally_cons,ih rest]
    cases frame with
    | launched other q =>
      have apart : ctx ≠ other := fun same => first (congrArg some same.symm)
      simp [Frame.roles,apart.symm]
    | published other =>
      have apart : ctx ≠ other := fun same => first (congrArg some same.symm)
      simp [Frame.roles,apart.symm]
    | worker weight q => cases q <;> simp [Frame.roles]
    | _ => simp [Frame.roles]

theorem free_kept (inv : Invariant s given (.free ctx ::ₘ others)) (nobody : ∀ frame ∈ others, frame.awaits ≠ some ctx) :
    s.contexts ctx ≠ none ∧ Invariant (s.putContext ctx none) given others := by
  have fits := inv.rest_fit
  obtain ⟨context,here,queue,last,alone⟩ := inv.deleter ctx (by simp [Frame.roles])
  have sound := inv.sound ctx
  have none_freeing : tally others .freeing ctx = 0 := by
    have := (bounds others ctx).freeing
    omega
  have freed := sound.alive.free here (by simp [lifeOf,Frame.roles,none_freeing]) (by
    have := (bounds (.free ctx ::ₘ others) ctx).serving
    exact this) (by simp [lifeOf,Frame.roles,tally_window others nobody])
  refine ⟨by rw [here]; exact Option.some_ne_none context,?_⟩
  exact inv.near (inv.lt_of_context here) (putContext_local ..) (fun c apart other => by simp [Frame.roles,apart.symm]) fits
    ⟨freed,sound.posted,sound.joined.free rfl (by simp [lifeOf,Frame.roles])⟩
    (by simp [lifeOf,Frame.roles,Shared.putContext]) (by simp [mailOf,Frame.roles,Shared.putContext])

theorem create_kept (inv : Invariant s given (.creating ctx handle ::ₘ others)) : ∃ context, s.contexts ctx = some context ∧
    Invariant ((s.putContext ctx (some {context with handle:=handle, queue:=some ctx})).putQueue ctx (some (mqCreate handle))) given (.initing ctx ::ₘ others) := by
  obtain ⟨⟨ctx_lt,rfl⟩,fits⟩ := Multiset.forall_mem_cons.mp inv.fits
  have sound := inv.sound ctx
  have creating : 0 < (lifeOf s given (.creating ctx (given ctx) ::ₘ others) ctx).creating := tally_pos _ (Multiset.mem_cons_self ..) (by simp [Frame.roles])
  cases here : s.contexts ctx with
  | none => exact absurd (sound.alive.gone here).creating (Nat.ne_of_gt creating)
  | some context =>
    have living := sound.alive.living context here
    have unborn : context.queue = none := by
      cases queue : context.queue with
      | none => rfl
      | some q => exact absurd (living.born q queue).2.2 (Nat.ne_of_gt creating)
    have blank := sound.joined.blank context here unborn
    have counted := living.deleting
    rw [if_neg (by rw [living.registered (living.unborn unborn).2.1]; exact Nat.succ_ne_zero _)] at counted
    have none_freeing := Nat.le_zero.mp (counted ▸ sound.alive.freeing)
    exact ⟨context,rfl,inv.near ctx_lt ((putContext_local ..).trans (putQueue_local ..)) (fun c apart other => by simp [Frame.roles,apart.symm])
      (fit_cons trivial fits)
      ⟨sound.alive.create here unborn,sound.posted.create blank,.create rfl (Option.some_ne_none ctx) none_freeing rfl rfl⟩
      (by simp [lifeOf,Frame.roles,Shared.putContext,Shared.putQueue,Nat.add_comm])
      (by simp [mailOf,Frame.roles,Shared.putContext,Shared.putQueue,Nat.add_comm]; rfl)⟩

omit [Ord N] in
theorem Frame.Fits.later {next number : Nat} (fits : frame.Fits next given) : frame.Fits (next+1) (Function.update given next number) := by
  have old : ∀ ctx handle, ctx < next ∧ handle = given ctx → ctx < next+1 ∧ handle = Function.update given next number ctx := by
    rintro ctx handle ⟨low,same⟩
    exact ⟨by omega,by rw [Function.update_of_ne (by omega)]; exact same⟩
  cases frame with
  | creating ctx handle => exact old _ _ fits
  | retireFailed handle q => exact old _ _ fits
  | mqRelease q handle => exact old _ _ fits
  | draining q handle => exact old _ _ fits
  | _ => exact fits

-- A handle that is given is not one of those that were.
theorem numbered_apart {harbor one other : Nat} (high : harbor%2^24 = 0) (small : one < 2^24) (small' : other < 2^24) (same : one|||harbor = other|||harbor) :
    one = other := by
  have mod := congrArg (·%2^24) same
  rwa [harbor_mod le_rfl high,harbor_mod le_rfl high,Nat.mod_eq_of_lt small,Nat.mod_eq_of_lt small'] at mod

theorem contextNew_kept (inv : Invariant s given (.launch ::ₘ others)) (room : s.storage.handleIndex+s.storage.slot.length*2 ≤ 2^24)
    (all_stored : s.storage.Full → ∀ ctx, s.storage.Registered ctx → s.contextHandle ctx ≠ some 0) :
    ∃ handle t given, contextNew s = some (s.next,handle,t) ∧ Invariant t given (.creating s.next handle ::ₘ others) := by
  have fits := inv.rest_fit
  have fresh := inv.fresh s.next le_rfl
  have sound := inv.sound s.next
  have absent : ¬s.storage.Registered s.next := (sound.alive.gone fresh.context).registered
  obtain ⟨low,storage,ran,registration⟩ := handleRegister_spec (s.putContext s.next (some ⟨0,none,2,false⟩)).contextHandle inv.stored room
    (fun full other there => by
      obtain ⟨context,here⟩ := inv.registered there
      have apart : other ≠ s.next := fun same => absent (same ▸ there)
      have reads : (s.putContext s.next (some ⟨0,none,2,false⟩)).contextHandle other = some context.handle := by
        simp [Shared.contextHandle,Shared.putContext,apart,here]
      have own := all_stored full other there
      have living := (inv.sound other).alive.living context here
      rw [reads]
      cases queue : context.queue with
      | none => exact absurd (by rw [Shared.contextHandle,here,Option.map_some,(living.unborn queue).1]) own
      | some q => rw [(living.born q queue).2.1]; rfl) absent
  refine ⟨low|||s.storage.harbor,{s.putContext s.next (some ⟨0,none,2,false⟩) with storage:=storage, next:=s.next+1},
    Function.update given s.next (low|||s.storage.harbor),?_,registration.stored,?_,?_,?_,?_,?_,?_⟩
  · unfold contextNew
    have ran' : handleRegister (s.putContext s.next (some ⟨0,none,2,false⟩)).contextHandle s.next (s.putContext s.next (some ⟨0,none,2,false⟩)).storage =
      some (low|||s.storage.harbor,storage) := ran
    simp only [ran',Option.bind_eq_bind,Option.bind_some]
  · dsimp only
    rw [registration.name]
    exact inv.names
  · intro c c_lt
    have above := registration.above
    have index := inv.stored.index
    dsimp only
    rw [registration.index,registration.harbor]
    by_cases new : c = s.next
    · rw [new,Function.update_self]
      exact ⟨low,rfl,by omega,by omega,registration.high⟩
    · obtain ⟨number,own,positive,below,small⟩ := inv.numbered c (by dsimp only at c_lt; omega)
      rw [Function.update_of_ne new]
      exact ⟨number,own,positive,by omega,small⟩
  · have above := registration.above
    have high := inv.stored.harbor
    have newer : ∀ c < s.next, given c ≠ low|||s.storage.harbor := by
      intro c c_lt same
      obtain ⟨number,own,_,below,small⟩ := inv.numbered c c_lt
      rw [own] at same
      have := numbered_apart high small registration.high same
      omega
    intro a a_lt b b_lt same
    dsimp only at a_lt b_lt
    by_cases a_new : a = s.next
    · by_cases b_new : b = s.next
      · rw [a_new,b_new]
      · rw [a_new,Function.update_self,Function.update_of_ne b_new] at same
        exact absurd same.symm (newer b (by omega))
    · by_cases b_new : b = s.next
      · rw [b_new,Function.update_self,Function.update_of_ne a_new] at same
        exact absurd same (newer a (by omega))
      · rw [Function.update_of_ne a_new,Function.update_of_ne b_new] at same
        exact inv.apart a (by omega) b (by omega) same
  · intro c high
    dsimp only at high
    have old := inv.fresh c (by omega)
    refine ⟨?_,old.queue,old.pushed,old.dispatched,old.dropped⟩
    exact (Function.update_of_ne (by omega) ..).trans old.context
  · refine fit_cons ⟨Nat.lt_succ_self _,by rw [Function.update_self]⟩ (fun frame there => (fits frame there).later)
  · intro c
    by_cases new : c = s.next
    · subst new
      have posted := sound.posted
      have blank : Blank (mailOf s (.launch ::ₘ others) s.next) := ⟨fresh.queue,fresh.pushed,fresh.dispatched,fresh.dropped⟩
      have there : storage.Registered s.next := (registration.registered s.next).mpr (.inl rfl)
      have life : lifeOf {s.putContext s.next (some ⟨0,none,2,false⟩) with storage:=storage, next:=s.next+1}
            (Function.update given s.next (low|||s.storage.harbor)) (.creating s.next (low|||s.storage.harbor) ::ₘ others) s.next =
          {lifeOf s given (.launch ::ₘ others) s.next with
            given:=low|||s.storage.harbor
            context:=some ⟨0,none,2,false⟩
            registered:=True
            held:=(lifeOf s given (.launch ::ₘ others) s.next).held+1
            creating:=(lifeOf s given (.launch ::ₘ others) s.next).creating+1} := by
        simp only [lifeOf,there]
        simp [Frame.roles,Shared.putContext,Nat.add_comm]
      have mail : mailOf {s.putContext s.next (some ⟨0,none,2,false⟩) with storage:=storage, next:=s.next+1}
            (.creating s.next (low|||s.storage.harbor) ::ₘ others) s.next = mailOf s (.launch ::ₘ others) s.next := by
        simp [mailOf,Frame.roles,Shared.putContext]
      rw [life,mail]
      refine ⟨sound.alive.birth fresh.context _,⟨posted.vanished,fun q here => ?_⟩,.birth blank (fun context same => ?_)⟩
      · cases blank.queue.symm.trans here
      · cases same
        rfl
    · refine Same.sound (inv.sound c) ⟨Function.update_of_ne new ..,rfl,?_,rfl,rfl,rfl,rfl⟩ (Function.update_of_ne new ..) (fun role => ?_)
      · exact (registration.registered c).trans (or_iff_right new)
      · simp [Frame.roles,Ne.symm new]

-- The window of the one that made the service keeps its context.
theorem Invariant.awaited (inv : Invariant s given (frame ::ₘ others)) (ctx : Nat) (role : (.window,ctx) ∈ frame.roles) : ∃ context, s.contexts ctx = some context := by
  have positive : 0 < (lifeOf s given (frame ::ₘ others) ctx).window := tally_pos frame (Multiset.mem_cons_self ..) role
  cases here : s.contexts ctx with
  | none => exact absurd ((inv.sound ctx).alive.gone here).window (Nat.ne_of_gt positive)
  | some context => exact ⟨context,rfl⟩

theorem Invariant.number_ne (inv : Invariant s given frames) (low : q < s.next) : given q ≠ 0 := by
  obtain ⟨number,own,positive,_⟩ := inv.numbered q low
  rw [own]
  intro none_left
  have := (Nat.or_eq_zero_iff.mp none_left).1
  omega

-- A thread that has the queue of a service, and finds the service, serves it alone: it is not made by anyone any more.
theorem serve_kept (inv : Invariant s given (.release ctx ::ₘ .worker weight (some ctx) ::ₘ others)) (there : s.storage.Registered ctx) {i n : Nat} :
    Invariant s given (.loop weight ctx ctx i n ::ₘ others) := by
  have fits := (Multiset.forall_mem_cons.mp inv.rest_fit).2
  obtain ⟨context,here,queue,_⟩ := inv.holder ctx (by simp [Frame.roles]) (by simp [Frame.roles])
  have sound := inv.sound ctx
  have some_context : (lifeOf s given (.release ctx ::ₘ .worker weight (some ctx) ::ₘ others) ctx).context ≠ none := by
    change s.contexts ctx ≠ none
    rw [here]
    exact Option.some_ne_none context
  have init : ∀ context, (lifeOf s given (.release ctx ::ₘ .worker weight (some ctx) ::ₘ others) ctx).context = some context → context.init = true := by
    intro other same
    cases here.symm.trans same
    have living := sound.alive.living context here
    have alone := (inv.owned (x:=ctx) (tally_pos (.worker weight (some ctx)) (by simp) (by simp [Frame.roles]))).2.2
    have bound := (bounds others ctx).creator
    have born := (living.born ctx queue).2.2
    cases made : context.init with
    | true => rfl
    | false =>
      have maker := living.init made there
      simp only [lifeOf,tally_cons,Frame.roles] at maker born
      simp only [tally_cons,Frame.roles] at alone
      simp at maker born alone
      omega
  exact inv.turn (inv.lt_of_context here) (fun c apart role => by simp [Frame.roles,apart.symm]) (fit_cons rfl fits)
    ⟨sound.alive.serve init some_context,sound.posted,sound.joined.relive rfl rfl⟩ (by simp [lifeOf,Frame.roles,Nat.add_comm]) (by simp [mailOf,Frame.roles])

-- And leaves it again, with what it has.
theorem leave_kept {later : Multiset (Frame D N)} (inv : Invariant s given (frame ::ₘ others)) (role : frame.roles = [(.token,ctx),(.held,ctx),(.serving,ctx)])
    (tallies : ∀ role c, tally later role c = [(Role.token,ctx),(.held,ctx)].count (role,c)+tally others role c)
    (fits : ∀ frame ∈ later, frame.Fits s.next given) : Invariant s given later := by
  obtain ⟨context,here,_⟩ := inv.holder ctx (by simp [role]) (by simp [role])
  have sound := inv.sound ctx
  exact inv.turn (inv.lt_of_context here) (fun c apart other => by simp [tallies,role,apart.symm]) fits
    ⟨sound.alive.leave,sound.posted,sound.joined.relive rfl rfl⟩ (by simp [lifeOf,tallies,role]) (by simp [mailOf,tallies,role])

end OriginGame.Skynet
