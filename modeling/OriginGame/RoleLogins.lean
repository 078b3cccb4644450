import OriginGame.RepeatingTimers

namespace OriginGame.RoleTimerLogic
variable {timeStamp : Int} {timerIndex : Nat} {info : Info}

section logins

-- OnRoleLoginTimer at its next addTimer.
inductive Login where
  | save
  | crossDay (dayIn : Nat)
  | guardTower
  deriving DecidableEq

def Login.intervals : Login → Int×Int
  | .save => (600,600)
  | .crossDay dayIn => (dayIn+1,86400)
  | .guardTower => (60,60)

theorem Login.intervals_positive (login : Login) : 0 < login.intervals.1 ∧ 0 < login.intervals.2 := by
  cases login with
  | save | guardTower => decide
  | crossDay dayIn => exact ⟨Int.lt_add_one_of_le (Int.natCast_nonneg dayIn),by change (0 : Int) < 86400; decide⟩

def Login.onward (dayIn : Nat) : Login → Option Login
  | .save => some (.crossDay dayIn)
  | .crossDay _ => some .guardTower
  | .guardTower => none

-- One role with its suspended ticks, by the timer that runs them, and its suspended logins.
-- `registered` has the timers since the last login that were not deleted, and `out` says that a
-- logout was the last to finish.
structure Live where
  role : Role
  ticks : Table Nat Tick
  nextSession : Nat
  logins : List Login
  registered : List Nat
  out : Bool

inductive Happening where
  | clock (passed : Nat)
  | login
  | loginOn (login dayIn : Nat)
  | logout
  | run (orders : Orders)
  | resume (session : Nat) (orders : Orders)
  | deleteTimer (timerIndex : Nat)

namespace Live

def newborn (now : Int) : Live := ⟨⟨now,none,none,none,1,0,∅,[]⟩,∅,0,[],[],true⟩

-- The tick that is under way.
def current (s : Live) : Option Tick := s.role.roleRunTimerId.bind (fun session => s.ticks.lookup session)

-- createRoleTimerTick.
def createRoleTimerTick (s : Live) : Live :=
  match s.role.roleRunTimerId with
  | some _ => s
  | none => {s with role:={s.role with roleRunTimerId:=some s.nextSession}, nextSession:=s.nextSession+1}

def stored (s : Live) (session : Nat) (result : Role×Option Tick) : Live :=
  {s with
    role:=result.1
    ticks:=match result.2 with
      | some tick => s.ticks.insert session tick
      | none => s.ticks.erase session}

-- The timers that stand under an index.
def origins (r : Role) (timerIndex : Nat) : List Nat :=
  (r.roleTimers.getD ∅).entries.filterMap (fun e => (e.2.infos.lookup timerIndex).map Info.origin)

def turn (s : Live) : Happening → Live
  | .clock passed => {s with role:={s.role with now:=s.role.now+passed}}
  | .login => {s.createRoleTimerTick with logins:=s.logins++[.save], registered:=[], out:=false}
  | .loginOn login dayIn =>
    match s.logins[login]? with
    | none => s
    | some stage =>
      {s with
        role:=s.role.addTimer stage.intervals.1 stage.intervals.2 true none
        registered:=s.role.timerIndex::s.registered
        logins:=match stage.onward dayIn with
          | some further => s.logins.set login further
          | none => s.logins.eraseIdx login}
  | .logout => {s with role:=s.role.deleteTimerOnRoleLogout, registered:=[], out:=true}
  | .run orders =>
    match s.role.roleRunTimerId with
    | none => s
    | some session => if (s.ticks.lookup session).isSome then s else s.stored session (run orders s.role)
  | .resume session orders =>
    match s.ticks.lookup session with
    | none => s
    | some tick => s.stored session (resume orders s.role tick)
  | .deleteTimer timerIndex =>
    {s with role:=s.role.deleteTimer timerIndex, registered:=s.registered.filter (fun origin => origin ∉ origins s.role timerIndex)}

-- The timers under other indexes.
def others (r : Role) (timerIndex : Nat) : List Nat := Role.indexes (r.roleTimers.getD ∅) (fun _ other _ => other ≠ timerIndex)

-- No logout while a tick or a login is under way, and no deleteTimer of the last timer while a tick is.
def Fair (s : Live) : Happening → Prop
  | .logout => s.ticks.keys = [] ∧ s.logins = []
  | .deleteTimer timerIndex => s.ticks.keys = [] ∨ others s.role timerIndex ≠ []
  | _ => True

instance (s : Live) : (happening : Happening) → Decidable (Fair s happening)
  | .logout => inferInstanceAs (Decidable (_ ∧ _))
  | .deleteTimer _ => inferInstanceAs (Decidable (_ ∨ _))
  | .clock _ | .login | .loginOn _ _ | .run _ | .resume _ _ => isTrue trivial

structure Alive (s : Live) : Prop where
  sound : Sound s.role
  good : Good s.role s.current
  round : Round s.role (heldBy s.current)
  behind : Behind s.role.now s.current
  table : s.current.isSome → s.role.roleTimers.isSome
  sessions : ∀ session tick, s.ticks.lookup session = some tick → s.role.roleRunTimerId = some session
  registered : ∀ origin ∈ s.registered, Present s.role (heldBy s.current) origin
  out : s.out = true → s.role.roleTimers = none ∧ (∀ session, s.ticks.lookup session = none) ∧ s.logins = []

theorem current_of {s : Live} (sessions : ∀ session tick, s.ticks.lookup session = some tick → s.role.roleRunTimerId = some session)
    (there : s.ticks.lookup session = some tick) : s.current = some tick := by
  unfold current
  rw [sessions session tick there,Option.bind_some,there]

theorem current_no_ticks {s : Live} (none : ∀ session, s.ticks.lookup session = none) : s.current = .none := by
  unfold current
  cases s.role.roleRunTimerId with
  | none => rfl
  | some session => exact none session

-- The tick of one session goes on to where it is suspended next.
theorem stored_alive {s : Live} (alive : Alive s) (run : s.role.roleRunTimerId = some session) (sound : Sound result.1) (good : Good result.1 result.2)
    (turned : Turned s.role (heldBy s.current) result) (outs : s.out = true → result.1.roleTimers = none ∧ result.2 = none) : Alive (s.stored session result) := by
  obtain ⟨role,tick⟩ := result
  have mine (other : Nat) (away : other ≠ session) : s.ticks.lookup other = none := by
    cases there : s.ticks.lookup other with
    | none => rfl
    | some tick =>
      have same := alive.sessions other tick there
      rw [run] at same
      exact absurd (Option.some.inj same).symm away
  have ticks : (∀ other, (s.stored session (role,tick)).ticks.lookup other = if other = session then tick else none) := by
    intro other
    cases tick with
    | none =>
      change (s.ticks.erase session).lookup other = _
      split
      next same => rw [same,AList.lookup_erase]
      next away => rw [AList.lookup_erase_ne away,mine other away]
    | some tick =>
      change (s.ticks.insert session tick).lookup other = _
      split
      next same => rw [same,AList.lookup_insert]
      next away => rw [AList.lookup_insert_ne away,mine other away]
  have now : (s.stored session (role,tick)).current = tick := by
    cases tick with
    | none => exact current_no_ticks (fun other => by rw [ticks,ite_self])
    | some tick =>
      unfold current
      rw [show (s.stored session (role,some tick)).role.roleRunTimerId = some session from (turned.session rfl).trans run,Option.bind_some,ticks,if_pos rfl]
  refine ⟨sound,by rw [now]; exact good,by rw [now]; exact turned.round,by rw [now]; exact turned.behind,by rw [now]; exact turned.table,?_,?_,?_⟩
  · intro other found there
    rw [ticks] at there
    split at there
    next same =>
      cases there
      rw [same]
      exact (turned.session rfl).trans run
    · cases there
  · rw [now]
    exact fun origin mem => turned.present origin (alive.registered origin mem)
  · intro gone
    obtain ⟨empty,over_⟩ := outs gone
    obtain ⟨_,_,logins⟩ := alive.out gone
    refine ⟨empty,fun other => ?_,logins⟩
    cases over_
    rw [ticks,ite_self]

theorem mem_origins {r : Role} : first ∈ origins r timerIndex ↔ ∃ ts i, r.find ts timerIndex = some i ∧ i.origin = first := by
  unfold origins
  rw [List.mem_filterMap]
  constructor
  · rintro ⟨e,mem,same⟩
    obtain ⟨i,there,own⟩ := Option.map_eq_some_iff.mp same
    refine ⟨e.1,i,?_,own⟩
    cases table : r.roleTimers with
    | none => rw [table] at mem; cases mem
    | some t =>
      rw [table,Option.getD_some] at mem
      exact (find_bucket ((bucketAt_table table e.1).trans (AList.mem_lookup_iff.mpr mem)) timerIndex).trans there
  · rintro ⟨ts,i,there,own⟩
    obtain ⟨bucket,at_,inside⟩ := find_some there
    obtain ⟨t,table,found⟩ := Option.bind_eq_some_iff.mp at_
    refine ⟨⟨ts,bucket⟩,?_,by rw [inside,Option.map_some,own]⟩
    rw [table]
    exact AList.mem_lookup_iff.mp found

-- A timer under another index keeps the role's table.
theorem others_table {r : Role} (more : others r timerIndex ≠ []) : (r.deleteTimer timerIndex).roleTimers.isSome := by
  obtain ⟨j,mem⟩ := List.exists_mem_of_ne_nil _ more
  obtain ⟨ts,bucket,i,at_,inside,differs⟩ := mem_indexes.mp mem
  cases table : r.roleTimers with
  | none => rw [table] at at_; cases at_
  | some t =>
    rw [table,Option.getD_some] at at_
    have there : r.find ts j = some i := (find_bucket ((bucketAt_table table ts).trans at_) j).trans inside
    have still : (r.deleteTimer timerIndex).find ts j = some i := by
      unfold Role.deleteTimer
      rw [find_removeTimers,there,Option.filter_some,if_pos]
      simpa using differs
    cases kept : (r.deleteTimer timerIndex).roleTimers with
    | none => rw [find_no_bucket (bucketAt_none kept ts)] at still; cases still
    | some => rfl

-- Where every timer goes, the tables go too.
theorem removeTimers_all {r : Role} (all : ∀ ts j i, r.find ts j = some i → gone j i = true) : (r.removeTimers gone).roleTimers = none := by
  unfold Role.removeTimers
  split
  next missing => exact missing
  next table there =>
    dsimp only
    split
    · rfl
    next some_ =>
      refine absurd (List.eq_nil_iff_forall_not_mem.mpr fun ts mem => ?_) some_
      obtain ⟨bucket,found⟩ := Table.lookup_of_mem (AList.mem_keys.mpr mem)
      rw [Table.lookup_keepValues,Table.lookup_mapValues] at found
      obtain ⟨before,full⟩ := Option.filter_eq_some_iff.mp found
      obtain ⟨old,at_,rfl⟩ := Option.map_eq_some_iff.mp before
      have none : (old.infos.keepKeyed (fun j i => !gone j i)).keys = [] := by
        refine List.eq_nil_iff_forall_not_mem.mpr fun j mem => ?_
        obtain ⟨i,inside⟩ := Table.lookup_of_mem (AList.mem_keys.mpr mem)
        rw [Table.lookup_keepKeyed] at inside
        obtain ⟨here,stays⟩ := Option.filter_eq_some_iff.mp inside
        rw [all ts j i ((find_bucket ((bucketAt_table there ts).trans at_) j).trans here)] at stays
        cases stays
      rw [none] at full
      cases full

theorem removeTimers_round {r : Role} (gone : Nat → Info → Bool) (round : Round r had) : Round (r.removeTimers gone) had :=
  round.same (removed r gone).called (fun _ _ _ there => (kept_find there).1) (Nat.le_of_eq (removed r gone).timerIndex.symm)

theorem removeTimers_session {r : Role} (some : (r.removeTimers gone).roleTimers.isSome) : (r.removeTimers gone).roleRunTimerId = r.roleRunTimerId := by
  unfold Role.removeTimers at some ⊢
  split at some
  · rfl
  · dsimp only at some ⊢
    split at some
    · cases some
    next full => rw [if_neg full]

theorem removeTimers_now (r : Role) (gone : Nat → Info → Bool) : (r.removeTimers gone).now = r.now := by
  unfold Role.removeTimers
  split
  · rfl
  · dsimp only
    split <;> rfl

theorem createRoleTimerTick_alive {s : Live} (alive : Alive s) : Alive s.createRoleTimerTick := by
  unfold createRoleTimerTick
  split
  · exact alive
  next missing =>
    have none (session : Nat) : s.ticks.lookup session = .none := by
      cases there : s.ticks.lookup session with
      | none => rfl
      | some tick => exact absurd ((alive.sessions session tick there).symm.trans missing) nofun
    obtain ⟨sound,good,round,_,_,_,registered,out⟩ := alive
    rw [current_no_ticks none] at good round registered
    have idle : current {s with role:={s.role with roleRunTimerId:=some s.nextSession}, nextSession:=s.nextSession+1} = .none := current_no_ticks none
    refine ⟨⟨sound.sorted,sound.fresh,sound.away,sound.proper,sound.below,sound.pending,sound.account,sound.complete⟩,?_,?_,?_,?_,?_,?_,out⟩
    · rw [idle]
      exact good
    · rw [idle]
      exact round.same (fun _ => .rfl) (fun _ _ _ => id) (Nat.le_refl _)
    · rw [idle]
      trivial
    · rw [idle]
      exact nofun
    · intro session tick there
      exact absurd ((none session).symm.trans there) nofun
    · rw [idle]
      exact registered

theorem loginOn_alive {s : Live} (alive : Alive s) : Alive (s.turn (.loginOn login dayIn)) := by
  unfold turn
  dsimp only
  split
  · exact alive
  next stage there =>
    obtain ⟨sound,good,round,behind,table,sessions,registered,out⟩ := alive
    have later := stage.intervals_positive
    have apart : s.role.now+stage.intervals.1 ∉ begunBy s.current := by
      unfold Good at good
      unfold Behind at behind
      unfold begunBy
      split
      next l left ts id keys k info tick =>
        rw [tick] at good behind
        intro mem
        rcases List.mem_cons.mp mem with same | early
        · have := good.late
          have := behind.1
          omega
        · have := behind.2 _ early
          have := behind.1
          omega
      · exact List.not_mem_nil
    refine ⟨addTimer_sound _ _ _ none sound,addTimer_good sound good apart,round.addTimer sound later.2 rfl (.inl rfl) ?_ ?_,behind,fun _ => rfl,sessions,?_,?_⟩
    · intro mem
      obtain ⟨a,held,same⟩ := List.mem_map.mp mem
      have own : a.origin = s.role.timerIndex := same
      exact sound.uncalled_new (own ▸ (round.again a held).2.2)
    · exact fun ts j i there => Nat.ne_of_lt (round.repeating ts j i there).2.2.1
    · intro origin mem
      rcases List.mem_cons.mp mem with rfl | before
      · exact addTimer_present s.role (heldBy s.current)
      · exact (registered origin before).addTimer sound
    · intro gone
      rw [(out gone).2.2] at there
      cases there

theorem logout_alive {s : Live} (alive : Alive s) (fair : Fair s .logout) : Alive (s.turn .logout) := by
  obtain ⟨ticks,logins⟩ := fair
  have none := Table.lookup_no_keys ticks
  have idle := current_no_ticks none
  obtain ⟨sound,good,round,_,_,_,_,_⟩ := alive
  rw [idle] at good round
  have still : (s.turn .logout).current = .none := current_no_ticks none
  refine ⟨removeTimers_sound _ sound,?_,?_,?_,?_,?_,nofun,fun _ => ⟨?_,none,logins⟩⟩
  · rw [still]
    exact removeTimers_good _ sound good
  · rw [still]
    exact removeTimers_round _ round
  · rw [still]
    trivial
  · rw [still]
    exact nofun
  · intro session tick there
    exact absurd ((none session).symm.trans there) nofun
  · exact removeTimers_all (fun ts j i there => (round.repeating ts j i there).2.1)

theorem deleteTimer_alive {s : Live} (alive : Alive s) (fair : Fair s (.deleteTimer timerIndex)) : Alive (s.turn (.deleteTimer timerIndex)) := by
  obtain ⟨sound,good,round,behind,table,sessions,registered,out⟩ := alive
  have tabled : s.current.isSome → (s.role.deleteTimer timerIndex).roleTimers.isSome := by
    intro busy
    rcases fair with empty | more
    · rw [current_no_ticks (Table.lookup_no_keys empty)] at busy
      cases busy
    · exact others_table more
  have same : (s.turn (.deleteTimer timerIndex)).current = s.current := by
    rcases fair with empty | more
    · rw [current_no_ticks (Table.lookup_no_keys empty)]
      exact current_no_ticks (Table.lookup_no_keys empty)
    · exact congrArg (fun run => run.bind (fun session => s.ticks.lookup session)) (removeTimers_session (others_table more))
  refine ⟨removeTimers_sound _ sound,?_,?_,?_,?_,?_,?_,?_⟩
  · rw [same]
    exact removeTimers_good _ sound good
  · rw [same]
    exact removeTimers_round _ round
  · rw [same]
    exact (removeTimers_now s.role _).symm ▸ behind
  · rw [same]
    exact tabled
  · intro session tick there
    have busy : s.ticks.lookup session = some tick := there
    rcases fair with empty | more
    · exact absurd ((Table.lookup_no_keys empty session).symm.trans busy) nofun
    · exact (removeTimers_session (others_table more)).trans (sessions session tick busy)
  · intro origin mem
    rw [same]
    obtain ⟨before,stays⟩ := List.mem_filter.mp mem
    refine (registered origin before).imp_right ?_
    rintro ⟨ts,j,i,there,own⟩
    refine ⟨ts,j,i,?_,own⟩
    have other : j ≠ timerIndex := by
      rintro rfl
      exact of_decide_eq_true stays (mem_origins.mpr ⟨ts,i,there,own⟩)
    change (s.role.removeTimers _).find ts j = _
    rw [find_removeTimers,there,Option.filter_some,if_pos]
    simpa using other
  · intro gone
    obtain ⟨empty,none,logins⟩ := out gone
    refine ⟨?_,none,logins⟩
    change (s.role.removeTimers _).roleTimers = _
    unfold Role.removeTimers
    rw [empty]
    exact empty

theorem turn_alive {s : Live} (alive : Alive s) (happening : Happening) (fair : Fair s happening) : Alive (s.turn happening) := by
  cases happening with
  | clock passed =>
    obtain ⟨sound,good,round,behind,table,sessions,registered,out⟩ := alive
    refine ⟨sound.later _,good_later good _,round.same (fun _ => .rfl) (fun _ _ _ => id) (Nat.le_refl _),?_,table,sessions,registered,out⟩
    change Behind _ s.current
    unfold Behind at behind ⊢
    split
    next there =>
      rw [there] at behind
      exact ⟨by have := behind.1; change _ ≤ s.role.now+passed; omega,behind.2⟩
    · trivial
  | login =>
    obtain ⟨sound,good,round,behind,table,sessions,_,_⟩ := createRoleTimerTick_alive alive
    exact ⟨sound,good,round,behind,table,sessions,nofun,nofun⟩
  | loginOn login dayIn => exact loginOn_alive alive
  | logout => exact logout_alive alive fair
  | run orders =>
    unfold turn
    dsimp only
    split
    · exact alive
    next session run =>
      split
      · exact alive
      next idle =>
        have none : s.current = .none := by
          unfold current
          rw [run,Option.bind_some]
          exact Option.not_isSome_iff_eq_none.mp idle
        have good := alive.good
        have round := alive.round
        rw [none] at good round
        obtain ⟨sound,after⟩ := run_good orders alive.sound good
        refine stored_alive alive run sound after (none ▸ run_turned orders alive.sound good round) (fun gone => ?_)
        obtain ⟨empty,_⟩ := alive.out gone
        unfold RoleTimerLogic.run
        rw [empty]
        exact ⟨empty,rfl⟩
  | resume session orders =>
    unfold turn
    dsimp only
    split
    · exact alive
    next tick there =>
      have now := current_of alive.sessions there
      obtain ⟨good,round,behind,table⟩ := (show _ ∧ _ ∧ _ ∧ _ from ⟨alive.good,alive.round,alive.behind,alive.table⟩)
      rw [now] at good round behind table
      obtain ⟨sound,after⟩ := resume_good orders alive.sound good
      refine stored_alive alive (alive.sessions session tick there) sound after (now ▸ resume_turned orders alive.sound good round behind (table rfl)) (fun gone => ?_)
      exact absurd (((alive.out gone).2.1 session).symm.trans there) nofun
  | deleteTimer timerIndex => exact deleteTimer_alive alive fair

-- The first index deletes a timer for good as long as it was not called under it.
theorem deletable {r : Role} (round : Round r had) (present : Present r had first) :
    ¬Present (r.deleteTimer first) had first ↔ ¬Called r.history first := by
  rw [not_iff_not]
  constructor
  · rintro (mem | ⟨ts,j,i,there,own⟩)
    · obtain ⟨a,held,own⟩ := List.mem_map.mp mem
      exact own ▸ (round.again a held).2.2
    · obtain ⟨before,stays⟩ := kept_find there
      have other : j ≠ first := of_decide_eq_false stays
      obtain ⟨_,_,_,index⟩ := round.repeating ts j i before
      rw [own] at index
      exact index.resolve_left other
  · intro called
    rcases present with mem | ⟨ts,j,i,there,own⟩
    · exact .inl mem
    · by_cases same : j = first
      · subst same
        exact .inl (own ▸ (round.waiting ts j i there).mp called)
      · refine .inr ⟨ts,j,i,?_,own⟩
        change (r.removeTimers _).find ts j = _
        rw [find_removeTimers,there,Option.filter_some,if_pos]
        simpa using same

-- The repeating timers of a role, over any run of logins, logouts, ticks and deletions that keeps
-- logouts away from ticks.
theorem repeats_kept (path : Runs (Guarded (fun s happening t => t = turn s happening) Fair) (newborn now) happenings s) :
    (∀ origin ∈ s.registered, origin ∈ (heldBy s.current).map Info.origin ∨
      ∃! place : Int×Nat, ∃ info, s.role.find place.1 place.2 = some info ∧ info.origin = origin) ∧
    (∀ origin ∈ s.registered, ¬Present (s.role.deleteTimer origin) (heldBy s.current) origin ↔ ¬Called s.role.history origin) ∧
    (s.out = true → ∀ timeStamp timerIndex info, s.role.find timeStamp timerIndex = some info → info.isLogoutDelete = false) := by
  have start : Alive (newborn now) :=
    ⟨⟨nofun,nofun,nofun,trivial,nofun,nofun,nofun,nofun⟩,nofun,⟨.nil,nofun,nofun,nofun,nofun⟩,trivial,nofun,nofun,nofun,fun _ => ⟨rfl,fun _ => rfl,rfl⟩⟩
  have alive : Alive s := by
    refine Runs.invariant (fun s happening t good step => ?_) path start
    obtain ⟨done,fair⟩ := step
    cases done
    exact turn_alive good happening fair
  obtain ⟨sound,good,round,_,_,_,registered,out⟩ := alive
  refine ⟨fun origin mem => (registered origin mem).imp_right ?_,fun origin mem => ?_,fun gone ts j i there => ?_⟩
  · rintro ⟨ts,j,i,there,own⟩
    refine ⟨(ts,j),⟨i,there,own⟩,?_⟩
    rintro ⟨late,k⟩ ⟨a,pending,same⟩
    obtain rfl := round.once late k a ts j i pending there (same.trans own.symm)
    exact Prod.ext (sound.proper.once (sound.pending _ _ _ pending).1 (sound.pending _ _ _ there).1).1 rfl
  · exact deletable round (registered origin mem)
  · rw [find_no_bucket (bucketAt_none (out gone).1 ts)] at there
    cases there

def watch : List Happening := [.login,.loginOn 0 1000,.loginOn 0 0,.loginOn 0 0,.clock 60,.run plain]

theorem watch_kept : ∃ s : Live, s.registered = [3,2,1] ∧ Called s.role.history 3 ∧ ¬Present (s.role.deleteTimer 1) (heldBy s.current) 1 := by
  have path : Runs (Guarded (fun s happening t => t = turn s happening) Fair) (newborn 0) watch (watch.foldl turn (newborn 0)) :=
    Runs.foldl_guarded (by decide)
  exact ⟨_,by decide,by decide,((repeats_kept path).2.1 1 (by decide)).mpr (by decide)⟩

-- A logout while the guard tower's timer is called is followed by its being added again, and the index it was
-- registered under does not delete it once it was called.
theorem timer_left :
    (∃ happenings s, Runs (fun s happening t => t = turn s happening) (newborn 0) happenings s ∧ s.out = true ∧ s.ticks.keys = [] ∧
      s.role.find 120 4 = some ⟨60,true,3⟩) ∧
    ∃ happenings s, Runs (fun s happening t => t = turn s happening) (newborn 0) happenings s ∧ 3 ∈ s.registered ∧ s.ticks.keys = [] ∧
      (s.role.deleteTimer 3).find 120 4 = some ⟨60,true,3⟩ :=
  ⟨⟨_,_,Runs.foldl turn (newborn 0) (watch++[.logout,.resume 0 plain,.resume 0 plain]),by decide,by decide,by decide⟩,
    ⟨_,_,Runs.foldl turn (newborn 0) (watch++[.resume 0 plain,.resume 0 plain]),by decide,by decide,by decide⟩⟩

end Live

end logins

end OriginGame.RoleTimerLogic
