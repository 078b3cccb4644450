import OriginGame.SkynetTimerWheel

namespace OriginGame.SkynetTimer

-- What has been taken out of the wheel and not been dispatched yet.
def System.undispatched (s : System) : List (Nat × TimerEvent) := match s.thread with
  | .idle => []
  | .first current => current.map (fun node => (s.now,node.event))
  | .second current => current.map (fun node => (s.now,node.event))

-- The timeouts that are due up to a tick: tick by tick, those of one tick in the order they were made in.
def dueBy (history : List (Nat × TimerEvent)) (now : Nat) : List (Nat × TimerEvent) :=
  (List.range (now+1)).flatMap (fun tick => history.filter (fun timeout => timeout.1 = tick))

structure Exact (s : System) : Prop where
  thread : ∀ current, s.thread ≠ .first current
  timer : s.timer = wheel s.now (s.history.filter (fun timeout => s.now < timeout.1))
  bounds : ∀ timeout ∈ s.history, timeout.1 < s.now+2^31
  log : s.log++s.undispatched = dueBy s.history s.now

section due
variable {now : Nat} {pending history : List (Nat × TimerEvent)}

theorem dueBy_succ : dueBy history (now+1) = dueBy history now++history.filter (fun timeout => timeout.1 = now+1) := by
  unfold dueBy
  rw [List.range_succ,List.flatMap_append,List.flatMap_singleton]

-- A later timeout changes nothing of what is due.
theorem dueBy_later {due : Nat} (later : now < due) (event : TimerEvent) : dueBy (history++[(due,event)]) now = dueBy history now := by
  unfold dueBy
  refine List.flatMap_congr (fun tick inside => ?_)
  have apart : due ≠ tick := by
    have := List.mem_range.mp inside
    omega
  rw [List.filter_append]
  simp [apart]

theorem place_near (low : now ≤ due) : place now due = .near (now%2^8) ↔ due = now := by
  unfold place
  split
  next same =>
    have high := (rank_le (i:=0) (by decide) low).mp same.le
    simp only [Nat.zero_mul,Nat.add_zero] at high
    rw [Place.near.injEq]
    omega
  next i above =>
    refine iff_of_false (fun impossible => by cases impossible) ?_
    rintro rfl
    have lowest : rank due due ≤ 0 := (rank_le (by decide) le_rfl).mpr rfl
    omega

theorem near_due (bounds : ∀ timeout ∈ pending, now ≤ timeout.1) :
    (wheel now pending).near ((wheel now pending).time&&&255) = (pending.filter (fun timeout => timeout.1 = now)).map nodeOf := by
  have idx : (wheel now pending).time&&&255 = now%2^8 := (and_mask _ 8).trans (by change now%2^32%2^8 = now%2^8; omega)
  rw [idx]
  refine congrArg (List.map nodeOf) (List.filter_congr (fun timeout there => ?_))
  rw [decide_eq_decide]
  exact place_near (bounds timeout there)

theorem clear_due (bounds : ∀ timeout ∈ pending, now ≤ timeout.1) :
    clearNear (wheel now pending) ((wheel now pending).time&&&255) = wheel now (pending.filter (fun timeout => now < timeout.1)) := by
  have idx : (wheel now pending).time&&&255 = now%2^8 := (and_mask _ 8).trans (by change now%2^32%2^8 = now%2^8; omega)
  refine slot_ext (fun p => ?_) rfl
  rw [idx,clearNear_slot,wheel_slot,wheel_slot,List.filter_filter]
  split
  next here =>
    symm
    rw [List.map_eq_nil_iff,List.filter_eq_nil_iff]
    intro timeout there both
    simp only [Bool.and_eq_true,decide_eq_true_eq,here] at both
    have same := (place_near (bounds timeout there)).mp both.1
    omega
  next apart =>
    refine congrArg (List.map nodeOf) (List.filter_congr (fun timeout there => ?_))
    have later : place now timeout.1 = p → now < timeout.1 := by
      intro stands
      refine (bounds timeout there).lt_of_ne (fun same => apart ?_)
      rw [← stands]
      exact (place_near (bounds timeout there)).mpr same.symm
    refine Bool.eq_iff_iff.mpr ?_
    simp only [Bool.and_eq_true,decide_eq_true_eq]
    exact ⟨fun stands => ⟨stands,later stands⟩,And.left⟩

end due

section steps
variable {s : System}

theorem events_due {now : Nat} {timeouts : List (Nat × TimerEvent)} (each : ∀ timeout ∈ timeouts, timeout.1 = now) :
    (timeouts.map nodeOf).map (fun node => (now,node.event)) = timeouts := by
  induction timeouts with
  | nil => rfl
  | cons timeout rest ih =>
    have both := List.forall_mem_cons.mp each
    rw [List.map_cons,List.map_cons,ih both.2]
    exact congrArg (· :: rest) (Prod.ext both.1.symm rfl)

-- What `executeSecond` does to a wheel: it takes out what is due.
structure Executed (s next : System) (pending : List (Nat × TimerEvent)) : Prop where
  timer : next.timer = wheel s.now (pending.filter (fun timeout => s.now < timeout.1))
  thread : ∀ current, next.thread ≠ .first current
  undispatched : next.undispatched = pending.filter (fun timeout => timeout.1 = s.now)
  now : next.now = s.now
  history : next.history = s.history
  log : next.log = s.log

theorem executeSecond_due {pending : List (Nat × TimerEvent)} (timer : s.timer = wheel s.now pending) (bounds : ∀ timeout ∈ pending, s.now ≤ timeout.1) :
    Executed s (executeSecond s) pending := by
  have taken := near_due bounds
  have cleared := clear_due bounds
  rw [← timer] at taken cleared
  cases due : pending.filter (fun timeout => timeout.1 = s.now) with
  | nil =>
    rw [due,List.map_nil] at taken
    have next : executeSecond s = {s with thread:=.idle} := by
      unfold executeSecond
      rw [taken]
    have all : pending.filter (fun timeout => s.now < timeout.1) = pending := by
      refine List.filter_eq_self.mpr (fun timeout there => decide_eq_true ?_)
      refine (bounds timeout there).lt_of_ne (fun same => ?_)
      exact List.filter_eq_nil_iff.mp due timeout there (decide_eq_true same.symm)
    rw [next]
    exact ⟨all.symm ▸ timer,fun _ impossible => (nomatch impossible),due.symm,rfl,rfl,rfl⟩
  | cons timeout rest =>
    rw [due,List.map_cons] at taken
    have next : executeSecond s = {s with timer:=clearNear s.timer (s.timer.time&&&255), thread:=.second (nodeOf timeout::rest.map nodeOf)} := by
      unfold executeSecond
      rw [taken]
    have events : ((timeout::rest).map nodeOf).map (fun node => (s.now,node.event)) = timeout::rest := by
      refine events_due (fun one there => ?_)
      rw [← due] at there
      exact of_decide_eq_true (List.mem_filter.mp there).2
    rw [next]
    exact ⟨cleared,fun _ impossible => (nomatch impossible),events.trans due.symm,rfl,rfl,rfl⟩

theorem timeout_exact (before : Exact s) (event : TimerEvent) (time : Int32) : Exact (timeout s event time) := by
  by_cases at_once : time ≤ 0
  · have same : timeout s event time = s := by
      unfold timeout skynetTimeout
      rw [if_pos at_once,if_pos at_once]
    rwa [same]
  · have positive : 0 < time.toInt := by
      rw [Int32.le_iff_toInt_le] at at_once
      exact Int.not_le.mp at_once
    have high : time.toInt < 2^31 := time.toInt_lt
    have later : s.now < s.now+time.toInt.toNat := by omega
    have next : timeout s event time = {s with timer:=timerAdd s.timer event time, history:=s.history++[(s.now+time.toInt.toNat,event)]} := by
      unfold timeout skynetTimeout
      rw [if_neg at_once,if_neg at_once]
    rw [next]
    refine ⟨before.thread,?_,?_,?_⟩
    · dsimp only
      have kept : [(s.now+time.toInt.toNat,event)].filter (fun timeout => s.now < timeout.1) = [(s.now+time.toInt.toNat,event)] := by
        refine List.filter_eq_self.mpr (fun timeout there => decide_eq_true ?_)
        rw [List.mem_singleton.mp there]
        exact later
      rw [before.timer,timerAdd_wheel event time positive,List.filter_append,kept]
    · intro timeout there
      rcases List.mem_append.mp there with old | new
      · exact before.bounds timeout old
      · rw [List.mem_singleton.mp new]
        dsimp only
        omega
    · exact before.log.trans (dueBy_later later event).symm

-- From an update on, with nothing due any more, up to the next time the lock is free.
theorem executeFirst_exact (before : Exact s) (none_left : s.undispatched = []) : ∃ next, executeFirst s = some next ∧ Exact next := by
  have later : ∀ timeout ∈ s.history.filter (fun timeout => s.now < timeout.1), s.now < timeout.1 ∧ timeout.1 < s.now+2^31 := by
    intro timeout there
    obtain ⟨inside,low⟩ := List.mem_filter.mp there
    exact ⟨of_decide_eq_true low,before.bounds timeout inside⟩
  have taken := near_due (fun timeout there => (later timeout there).1.le)
  have empty : (s.history.filter (fun timeout => s.now < timeout.1)).filter (fun timeout => timeout.1 = s.now) = [] := by
    refine List.filter_eq_nil_iff.mpr (fun timeout there same => ?_)
    have := later timeout there
    have := of_decide_eq_true same
    omega
  rw [empty,List.map_nil,← before.timer] at taken
  have shifted := timerShift_wheel later
  rw [← before.timer] at shifted
  have ran := executeSecond_due (s:={s with timer:=wheel (s.now+1) (s.history.filter (fun timeout => s.now < timeout.1)), now:=s.now+1}) rfl
    (fun timeout there => (later timeout there).1)
  refine ⟨executeSecond {s with timer:=wheel (s.now+1) (s.history.filter (fun timeout => s.now < timeout.1)), now:=s.now+1},?_,⟨ran.thread,?_,?_,?_⟩⟩
  · unfold executeFirst
    rw [taken]
    simp only [shifted,Option.bind_eq_bind,Option.bind_some]
  · rw [ran.timer,ran.now,ran.history,List.filter_filter]
    refine congrArg (wheel (s.now+1)) (List.filter_congr (fun timeout _ => ?_))
    refine Bool.eq_iff_iff.mpr ?_
    simp only [Bool.and_eq_true,decide_eq_true_eq]
    omega
  · rw [ran.history,ran.now]
    intro timeout there
    have := before.bounds timeout there
    dsimp only
    omega
  · have logged := before.log
    rw [none_left,List.append_nil] at logged
    rw [ran.log,ran.undispatched,ran.history,ran.now,dueBy_succ,List.filter_filter,logged]
    refine congrArg (dueBy s.history s.now++·) (List.filter_congr (fun timeout _ => ?_))
    refine Bool.eq_iff_iff.mpr ?_
    simp only [Bool.and_eq_true,decide_eq_true_eq]
    omega

-- Behind the last message nothing is due.
theorem executeSecond_exact (before : Exact s) (none_left : s.undispatched = []) : Exact (executeSecond s) := by
  have later : ∀ timeout ∈ s.history.filter (fun timeout => s.now < timeout.1), s.now < timeout.1 :=
    fun timeout there => of_decide_eq_true (List.mem_filter.mp there).2
  have ran := executeSecond_due before.timer (fun timeout there => (later timeout there).le)
  have empty : (s.history.filter (fun timeout => s.now < timeout.1)).filter (fun timeout => timeout.1 = s.now) = [] := by
    refine List.filter_eq_nil_iff.mpr (fun timeout there same => ?_)
    have := later timeout there
    have := of_decide_eq_true same
    omega
  refine ⟨ran.thread,?_,?_,?_⟩
  · rw [ran.timer,ran.now,ran.history,List.filter_filter]
    refine congrArg (wheel s.now) (List.filter_congr (fun timeout _ => ?_))
    rw [Bool.and_self]
  · rw [ran.history,ran.now]
    exact before.bounds
  · have logged := before.log
    rw [none_left] at logged
    rw [ran.log,ran.undispatched,empty,ran.history,ran.now]
    exact logged

theorem step_exact (before : Exact s) (label : Label) (moved : step s label = some t) : Exact t := by
  cases label with
  | timeout event time =>
    cases moved
    exact timeout_exact before event time
  | update =>
    change update s = some t at moved
    unfold update at moved
    split at moved
    next idle =>
      obtain ⟨next,ran,exact_next⟩ := executeFirst_exact before (by rw [System.undispatched,idle])
      cases ran.symm.trans moved
      exact exact_next
    next => cases moved
  | dispatch =>
    change dispatch s = some t at moved
    unfold dispatch at moved
    split at moved
    next node rest first => exact absurd first (before.thread _)
    next node rest second =>
      cases moved
      refine ⟨fun _ impossible => (nomatch impossible),before.timer,before.bounds,?_⟩
      have logged := before.log
      rw [System.undispatched,second] at logged
      rw [← logged]
      exact List.append_assoc ..
    next => cases moved
  | lock =>
    change lock s = some t at moved
    unfold lock at moved
    split at moved
    next first => exact absurd first (before.thread _)
    next second =>
      cases moved
      exact executeSecond_exact before (by rw [System.undispatched,second]; rfl)
    next => cases moved

theorem init_exact : Exact init :=
  ⟨fun _ impossible => (nomatch impossible),rfl,fun _ impossible => (nomatch impossible),rfl⟩

end steps

-- In every run, whatever other threads ask for while the lock is free, each timeout is dispatched once, at the tick it is due at and
-- behind those of this tick that were made before it, also where the 32 bits of the time turn over. Those that are not due yet
-- are in the wheel, and the thread of the timer always comes to the next tick.
theorem run_exact (path : Runs (fun s label t => step s label = some t) init labels s) :
    s.log++s.undispatched = dueBy s.history s.now ∧ s.timer = wheel s.now (s.history.filter (fun timeout => s.now < timeout.1)) ∧
      (s.thread = .idle → ∃ t, step s .update = some t) := by
  have last := path.invariant (fun _ label _ before moved => step_exact before label moved) init_exact
  refine ⟨last.log,last.timer,fun idle => ?_⟩
  obtain ⟨next,ran,_⟩ := executeFirst_exact last (by rw [System.undispatched,idle])
  refine ⟨next,?_⟩
  change update s = some next
  unfold update
  rw [idle]
  exact ran

theorem run_exact_one :
    ∃ s, s.log = [(1,⟨7,1⟩)] ∧ s.log++s.undispatched = dueBy s.history s.now ∧ s.timer = wheel s.now (s.history.filter (fun timeout => s.now < timeout.1)) ∧
      (s.thread = .idle → ∃ t, step s .update = some t) := by
  have path : ∃ s, Runs (fun s label t => step s label = some t) init [.timeout ⟨7,1⟩ 1,.update,.dispatch,.lock] s ∧ s.log = [(1,⟨7,1⟩)] :=
    ⟨_,.more rfl (.more rfl (.more rfl (.more rfl .done))),rfl⟩
  obtain ⟨s,path,logged⟩ := path
  exact ⟨s,logged,run_exact path⟩

end OriginGame.SkynetTimer
