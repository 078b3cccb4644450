import OriginGame.BuildQueues

namespace OriginGame.BuildingLogic
variable {data : LevelData} {w middle after : Works} {queueIndex buildingIndex timerId c : Nat} {queue : QueueInfo} {now sec : Int}

namespace Works

-- What a locked body or a step of the speed-up leaves: no timer id comes back, constructions are
-- begun or ended but not both, and a busy queue stays as it was, is free, or is set nearer.
structure Follows (now : Int) (w after : Works) : Prop where
  timerIndex : w.timerIndex ≤ after.timerIndex
  timers : ∀ timerId ∈ after.timers, timerId ∈ w.timers ∨ w.timerIndex ≤ timerId
  constructions : w.constructions <+: after.constructions
  account : after.ends = w.ends ∨ after.constructions = w.constructions
  queue : ∀ queueIndex queue, w.Busy queueIndex queue → ∃ next, after.buildQueue.lookup queueIndex = some next ∧
    (next = queue ∨ next.finishTime < 0 ∨ now < queue.finishTime ∧ next.construction = queue.construction ∧
      ∃ speedUp ∈ w.speeding, 0 < next.finishTime ∧ next.finishTime = queue.finishTime-speedUp.seconds)

theorem Follows.refl (now : Int) (w : Works) : Follows now w w :=
  ⟨Nat.le_refl _,fun _ => .inl,List.prefix_refl _,.inl rfl,fun _ queue busy => ⟨queue,busy.1,.inl rfl⟩⟩

-- What callbacks and cancellations leave.
structure Settles (w after : Works) : Prop where
  timerIndex : after.timerIndex = w.timerIndex
  timers : ∀ timerId ∈ after.timers, timerId ∈ w.timers
  constructions : after.constructions = w.constructions
  calls : after.calls = w.calls
  speeding : after.speeding = w.speeding
  queue : ∀ queueIndex queue, w.buildQueue.lookup queueIndex = some queue →
    ∃ next, after.buildQueue.lookup queueIndex = some next ∧ (next = queue ∨ next.finishTime < 0)

theorem Settles.refl (w : Works) : Settles w w := ⟨rfl,fun _ => id,rfl,rfl,rfl,fun _ queue there => ⟨queue,there,.inl rfl⟩⟩

theorem Settles.trans (first : Settles w middle) (second : Settles middle after) : Settles w after := by
  refine ⟨second.timerIndex.trans first.timerIndex,fun id mem => first.timers id (second.timers id mem),second.constructions.trans first.constructions,
    second.calls.trans first.calls,second.speeding.trans first.speeding,?_⟩
  intro j queue there
  obtain ⟨next,found,same | idle⟩ := first.queue j queue there
  · subst same
    exact second.queue j next found
  · obtain ⟨last,found,same | free⟩ := second.queue j next found
    · exact ⟨last,found,.inr (by rw [same]; exact idle)⟩
    · exact ⟨last,found,.inr free⟩

theorem Released.settles {e : End} (released : Released w after queueIndex queue e) : Settles w after := by
  refine ⟨released.timerIndex,fun _ => released.mem,released.constructions,released.calls,released.speeding,?_⟩
  intro j other there
  obtain ⟨idle,queues,free,_⟩ := released.idle
  by_cases same : j = queueIndex
  · subst same
    exact ⟨idle,by rw [queues,AList.lookup_insert],.inr free⟩
  · exact ⟨other,by rw [queues,AList.lookup_insert_ne same]; exact there,.inl rfl⟩

theorem Settles.follows (settles : Settles w after) (now : Int) : Follows now w after := by
  refine ⟨Nat.le_of_eq settles.timerIndex.symm,fun id mem => .inl (settles.timers id mem),by rw [settles.constructions],.inr settles.constructions,?_⟩
  intro j queue busy
  obtain ⟨next,found,same | idle⟩ := settles.queue j queue busy.1
  · exact ⟨next,found,.inl same⟩
  · exact ⟨next,found,.inr (.inl idle)⟩

theorem upGradeBuildCallBackImpl_settles {less : Int} (sound : Sound data w) (due : w.Due now less buildingIndex queueIndex) :
    Settles w (w.upGradeBuildCallBackImpl data now less buildingIndex queueIndex) := by
  rcases upGradeBuildCallBackImpl_cases sound due with ⟨same,_⟩ | ⟨_,_,_,_,_,_,released⟩
  · rw [same]
    exact .refl w
  · exact released.settles

theorem endBuildings_settles (keys : List Nat) (sound : Sound data w) : Settles w (w.endBuildings data buildingIndex keys) := by
  induction keys generalizing w with
  | nil => exact .refl w
  | cons queueIndex rest ih =>
    rcases endBuildings_cons sound buildingIndex queueIndex rest with same | ⟨queue,after,busy,rfl,released,same⟩
    · rw [same]
      exact ih sound
    · rw [same]
      exact released.settles.trans (ih (released_sound sound busy released fun _ _ => rfl))

theorem construct_follows {building : Building} {time : Int} (there : w.buildQueue.lookup queueIndex = some queue) (free : queue.finishTime < 0) (begun : Int) :
    Follows now w (w.construct begun time queueIndex queue buildingIndex building) := by
  refine ⟨Nat.le_succ _,?_,List.prefix_append _ _,.inl rfl,?_⟩
  · intro id mem
    rcases (AList.mem_insert _).mp mem with rfl | old
    · exact .inr (Nat.le_refl _)
    · exact .inl old
  · intro j other busy
    refine ⟨other,(AList.lookup_insert_ne ?_).trans busy.1,.inl rfl⟩
    rintro rfl
    cases there.symm.trans busy.1
    exact absurd busy.2 (by omega)

theorem createBulidingImpl_follows {late type multi} (order : Order Nat) (w : Works) :
    Follows now w (w.createBulidingImpl data order now late type multi).1 := by
  unfold createBulidingImpl
  split
  · exact .refl _ w
  · dsimp only
    split_ifs
    · exact ⟨Nat.le_refl _,fun _ => .inl,List.prefix_refl _,.inl rfl,fun _ queue busy => ⟨queue,busy.1,.inl rfl⟩⟩
    · exact .refl _ w
    · split
      · exact .refl _ w
      next chosen =>
        obtain ⟨queue,there,idle⟩ := freeQueue_idle chosen
        rw [there]
        exact construct_follows there idle _

theorem upGradeBulidingImpl_follows {late multi} (order : Order Nat) (w : Works) :
    Follows now w (w.upGradeBulidingImpl data order now late buildingIndex multi).1 := by
  unfold upGradeBulidingImpl
  split
  · exact .refl _ w
  · split
    · exact .refl _ w
    · split_ifs
      · exact .refl _ w
      · split
        · exact .refl _ w
        next chosen =>
          obtain ⟨queue,there,idle⟩ := freeQueue_idle chosen
          rw [there]
          exact construct_follows there idle _

theorem createBulidingImpl_waiting {late type multi} (order : Order Nat) (w : Works) :
    (w.createBulidingImpl data order now late type multi).1.calls = w.calls ∧
    (w.createBulidingImpl data order now late type multi).1.speeding = w.speeding := by
  unfold createBulidingImpl
  split
  · exact ⟨rfl,rfl⟩
  · dsimp only
    split_ifs
    · exact ⟨rfl,rfl⟩
    · exact ⟨rfl,rfl⟩
    · split
      · exact ⟨rfl,rfl⟩
      · split <;> exact ⟨rfl,rfl⟩

theorem upGradeBulidingImpl_waiting {late multi} (order : Order Nat) (w : Works) :
    (w.upGradeBulidingImpl data order now late buildingIndex multi).1.calls = w.calls ∧
    (w.upGradeBulidingImpl data order now late buildingIndex multi).1.speeding = w.speeding := by
  unfold upGradeBulidingImpl
  split
  · exact ⟨rfl,rfl⟩
  · split
    · exact ⟨rfl,rfl⟩
    · split_ifs
      · exact ⟨rfl,rfl⟩
      · split
        · exact ⟨rfl,rfl⟩
        · split <;> exact ⟨rfl,rfl⟩

theorem updateBuildTimer_calls (now : Int) (queueIndex : Nat) (sec : Int) (w : Works) : (w.updateBuildTimer now queueIndex sec).calls = w.calls := by
  unfold updateBuildTimer
  split
  · rfl
  · split <;> rfl

theorem updateBuildTimer_follows (left : ∀ queue ∈ w.buildQueue.lookup queueIndex, queue.finishTime ≤ 0 ∨
      now < queue.finishTime ∧ sec < queue.finishTime ∨ queue.finishTime ≤ now ∧ w.Waited queue)
    (late : 0 ≤ now) (under : w.speeding = some (.updateBuildTimer queueIndex sec)) : Follows now w (w.updateBuildTimer now queueIndex sec) := by
  unfold updateBuildTimer
  split
  · exact .refl _ w
  next queue there =>
    split
    next ahead =>
      refine ⟨Nat.le_succ _,?_,List.prefix_refl _,.inl rfl,?_⟩
      · intro id mem
        rcases (AList.mem_insert _).mp mem with rfl | old
        · exact .inr (Nat.le_refl _)
        · exact .inl old
      · intro j other busy
        by_cases same : j = queueIndex
        · subst same
          cases there.symm.trans busy.1
          refine ⟨_,AList.lookup_insert _,.inr (.inr ⟨ahead,rfl,_,under,?_,rfl⟩)⟩
          rcases left _ there with over_ | ⟨_,less⟩ | ⟨due,_⟩
          · omega
          · exact Int.sub_pos_of_lt less
          · omega
        · exact ⟨other,(AList.lookup_insert_ne same).trans busy.1,.inl rfl⟩
    · exact .refl _ w

-- What a step of the speed-up leaves does not depend on where the speed-up stands after it.
theorem Follows.onward (follows : Follows now w after) (speeding : Option SpeedUp) : Follows now w {after with speeding:=speeding} :=
  ⟨follows.timerIndex,follows.timers,follows.constructions,follows.account,follows.queue⟩

theorem speedOn_follows (sound : Sound data w) (sped : ∀ speedUp ∈ w.speeding, w.Sped now speedUp) (late : 0 ≤ now) :
    Follows now w (w.speedOn data now) := by
  unfold speedOn
  split
  · exact .refl _ w
  · rw [deleteBuildTimer_rest]
    refine ⟨Nat.le_refl _,fun id mem => .inl ?_,List.prefix_refl _,.inl rfl,fun _ queue busy => ⟨queue,busy.1,.inl rfl⟩⟩
    obtain ⟨timer,there⟩ := Table.lookup_of_mem mem
    exact Table.mem_of_lookup (deleteBuildTimer_found there)
  · exact (Follows.refl _ w).onward _
  next under => exact ((upGradeBuildCallBackImpl_settles sound (sped _ under)).follows now).onward none
  next under => exact (updateBuildTimer_follows (sped _ under) late under).onward none

theorem upGradeBuildCallBack_follows (sound : Sound data w)
    (due : ∀ timer ∈ w.calls.lookup timerId, w.Due now 0 timer.buildingIndex timer.queueIndex) : Follows now w (w.upGradeBuildCallBack data now timerId) := by
  unfold upGradeBuildCallBack
  split
  · exact .refl _ w
  next timer there =>
    have follows := (upGradeBuildCallBackImpl_settles sound (due timer there)).follows now
    exact ⟨follows.timerIndex,follows.timers,follows.constructions,follows.account,follows.queue⟩

theorem fire_follows (w : Works) : Follows now w (w.fire now timerId) := by
  unfold fire
  split
  · exact .refl _ w
  · split
    · exact ⟨Nat.le_refl _,fun id mem => .inl (AList.mem_erase.mp mem).2,List.prefix_refl _,.inl rfl,fun _ queue busy => ⟨queue,busy.1,.inl rfl⟩⟩
    · exact .refl _ w

theorem speedOn_calls (sound : Sound data w) (sped : ∀ speedUp ∈ w.speeding, w.Sped now speedUp) : (w.speedOn data now).calls = w.calls := by
  unfold speedOn
  split
  · rfl
  · rw [deleteBuildTimer_rest]
  · rfl
  next under => exact (upGradeBuildCallBackImpl_settles sound (sped _ under)).calls
  · exact updateBuildTimer_calls _ _ _ _

-- A step of the speed-up leaves it with its seconds.
theorem speedOn_seconds (data : LevelData) (now : Int) (w : Works) (next : SpeedUp) (mem : next ∈ (w.speedOn data now).speeding) :
    ∃ speedUp ∈ w.speeding, next.seconds = speedUp.seconds := by
  unfold speedOn at mem
  split at mem
  next none =>
    rw [none] at mem
    cases mem
  next under =>
    cases mem
    exact ⟨_,under,rfl⟩
  next under =>
    refine ⟨_,under,?_⟩
    dsimp only at mem
    split_ifs at mem
    all_goals cases mem
    all_goals rfl
  · cases mem
  · cases mem

theorem upGradeBuildCallBack_waiting (data : LevelData) (now : Int) (timerId : Nat) (w : Works) :
    (∀ id, id ≠ timerId → (w.upGradeBuildCallBack data now timerId).calls.lookup id = w.calls.lookup id) ∧
    (w.upGradeBuildCallBack data now timerId).speeding = w.speeding := by
  unfold upGradeBuildCallBack
  split
  · exact ⟨fun _ _ => rfl,rfl⟩
  next timer there =>
    refine ⟨fun id away => AList.lookup_erase_ne away,?_⟩
    exact (upGradeBuildCallBackImpl_waiting data now 0 timer.buildingIndex timer.queueIndex w).2

theorem fire_waiting (sound : Sound data w) (now : Int) (timerId : Nat) :
    (∀ id timer, w.calls.lookup id = some timer → (w.fire now timerId).calls.lookup id = some timer) ∧ (w.fire now timerId).speeding = w.speeding := by
  unfold fire
  split
  · exact ⟨fun _ _ => id,rfl⟩
  next timer there =>
    split
    · refine ⟨fun id other called => (AList.lookup_insert_ne ?_).trans called,rfl⟩
      rintro rfl
      exact sound.fired id (Table.mem_of_lookup there) (Table.mem_of_lookup called)
    · exact ⟨fun _ _ => id,rfl⟩

end Works

namespace Role

-- What every run keeps: also, the clock has begun and no speed-up puts anything off.
structure Sound (data : LevelData) (s : Role) : Prop where
  works : Works.Sound data s.works
  begun : 0 ≤ s.now
  shortens : ∀ speedUp ∈ s.works.speeding, 0 ≤ speedUp.seconds

-- What one happening leaves.
structure Turned (s after : Role) (happening : Happening) : Prop where
  now : s.now ≤ after.now
  works : Works.Follows s.now s.works after.works
  calls : ∀ timerId timer, s.works.calls.lookup timerId = some timer →
    after.works.calls.lookup timerId = some timer ∨ happening = .upGradeBuildCallBack timerId
  speeding : ∀ speedUp, s.works.speeding = some speedUp → after.works.speeding = some speedUp ∨ happening = .speedOn

variable {s : Role}

theorem Turned.refl {happening : Happening} (s : Role) : Turned s s happening :=
  ⟨Int.le_refl _,.refl _ _,fun _ _ => .inl,fun _ => .inl⟩

-- A body that takes its time and leaves callbacks and speed-up waiting.
theorem body_turned {happening : Happening} {asked : List Request} (late : Nat) (sound : s.Sound data) (kept : Works.Sound data after)
    (follows : Works.Follows s.now s.works after) (waiting : after.calls = s.works.calls ∧ after.speeding = s.works.speeding) :
    Sound data ⟨s.now+late,after,asked⟩ ∧ Turned s ⟨s.now+late,after,asked⟩ happening := by
  have later : s.now ≤ s.now+late := Int.le_add_of_nonneg_right (Int.natCast_nonneg late)
  refine ⟨⟨kept,Int.le_trans sound.begun later,by rw [waiting.2]; exact sound.shortens⟩,later,follows,?_,?_⟩
  · exact fun id timer there => .inl (by rw [waiting.1]; exact there)
  · exact fun speedUp there => .inl (by rw [waiting.2]; exact there)

theorem turn_sound (sound : s.Sound data) (happening : Happening) (kept : Kept data s happening) :
    (s.turn data happening).Sound data ∧ Turned s (s.turn data happening) happening := by
  obtain ⟨works,begun,shortens⟩ := id sound
  cases happening with
  | clock passed =>
    have later : s.now ≤ s.now+passed := Int.le_add_of_nonneg_right (Int.natCast_nonneg passed)
    exact ⟨⟨works,Int.le_trans begun later,shortens⟩,later,.refl _ _,fun _ _ => .inl,fun _ => .inl⟩
  | ask request =>
    unfold turn
    dsimp only
    split
    · exact ⟨⟨works,begun,shortens⟩,Int.le_refl _,.refl _ _,fun _ _ => .inl,fun _ => .inl⟩
    · exact ⟨sound,.refl s⟩
  | checkFreeBuildQueue request =>
    unfold turn
    dsimp only
    split
    · exact ⟨⟨works,begun,shortens⟩,Int.le_refl _,.refl _ _,fun _ _ => .inl,fun _ => .inl⟩
    · exact ⟨sound,.refl s⟩
  | refuse request => exact ⟨⟨works,begun,shortens⟩,Int.le_refl _,.refl _ _,fun _ _ => .inl,fun _ => .inl⟩
  | createBuliding type multi late order =>
    unfold turn
    dsimp only
    split
    · exact body_turned late sound (Works.createBulidingImpl_sound works kept) (Works.createBulidingImpl_follows order _)
        (Works.createBulidingImpl_waiting order _)
    · exact ⟨sound,.refl s⟩
  | upGradeBuliding b multi late order =>
    unfold turn
    dsimp only
    split
    · exact body_turned late sound (Works.upGradeBulidingImpl_sound works kept) (Works.upGradeBulidingImpl_follows order _)
        (Works.upGradeBulidingImpl_waiting order _)
    · exact ⟨sound,.refl s⟩
  | endBuilding b order =>
    unfold turn
    dsimp only
    split
    · have settles : Works.Settles s.works (s.works.endBuilding data order b) := Works.endBuildings_settles _ works
      refine ⟨⟨Works.endBuildings_sound _ works,begun,by rw [settles.speeding]; exact shortens⟩,Int.le_refl _,settles.follows _,?_,?_⟩
      · exact fun id timer there => .inl (by rw [settles.calls]; exact there)
      · exact fun speedUp there => .inl (by rw [settles.speeding]; exact there)
    · exact ⟨sound,.refl s⟩
  | speedUp index seconds =>
    unfold turn
    dsimp only
    split
    next may =>
      refine ⟨⟨Works.speedUp_sound works may.2,begun,?_⟩,Int.le_refl _,(Works.Follows.refl _ _).onward _,fun _ _ => .inl,?_⟩
      · intro speedUp mem
        obtain ⟨_,_,rfl⟩ := Option.map_eq_some_iff.mp mem
        exact kept
      · intro speedUp there
        cases may.2.symm.trans there
    · exact ⟨sound,.refl s⟩
  | speedOn =>
    refine ⟨⟨Works.speedOn_sound works kept begun,begun,?_⟩,Int.le_refl _,Works.speedOn_follows works kept begun,?_,fun _ _ => .inr rfl⟩
    · intro next mem
      obtain ⟨speedUp,there,same⟩ := Works.speedOn_seconds data s.now s.works next mem
      rw [same]
      exact shortens speedUp there
    · exact fun id timer there => .inl ((congrArg (AList.lookup id) (Works.speedOn_calls works kept)).trans there)
  | fire timerId =>
    have waiting := Works.fire_waiting works s.now timerId
    refine ⟨⟨Works.fire_sound works,begun,?_⟩,Int.le_refl _,Works.fire_follows _,fun id timer there => .inl (waiting.1 id timer there),?_⟩
    · intro speedUp mem
      exact shortens speedUp (by rw [← waiting.2]; exact mem)
    · exact fun speedUp there => .inl (waiting.2.trans there)
  | upGradeBuildCallBack timerId =>
    have waiting := Works.upGradeBuildCallBack_waiting data s.now timerId s.works
    refine ⟨⟨Works.upGradeBuildCallBack_sound works kept,begun,?_⟩,Int.le_refl _,Works.upGradeBuildCallBack_follows works kept,?_,?_⟩
    · intro speedUp mem
      exact shortens speedUp (by rw [← waiting.2]; exact mem)
    · intro id timer there
      by_cases same : id = timerId
      · exact .inr (by rw [same])
      · exact .inl ((waiting.1 id same).trans there)
    · exact fun speedUp there => .inl (waiting.2.trans there)

end Role
end OriginGame.BuildingLogic
