import OriginGame.ResourceCollect

namespace OriginGame.ResourceCollect
variable {s t : State} {army : Key} {info : Army} {now : Option Handler}

section invariant

-- The session under way, of this army, is not paid for yet.
structure Unpaid (s : State) (army : Key) : Prop where
  listed : s.listed = true
  time : s.node.collectTime.isSome
  started : s.started[s.node.session]? = some army
  uncredited : s.node.session ∉ s.credits.map Credit.session

def NoTimers (s : State) : Prop := ∀ timerId, s.timers.lookup timerId = none

-- A timer that can fire is the node's, and for the session under way.
def Timed (s : State) : Prop := ∀ timerId timer, s.timers.lookup timerId = some timer →
  s.node.timerId = some timerId ∧ timer.session = s.node.session ∧ Unpaid s timer.army

structure Books (s : State) : Prop where
  once : (s.credits.map Credit.session).Nodup
  own : ∀ credit ∈ s.credits, s.started[credit.session]? = some credit.army
  deducted : (s.deducts.map Prod.fst).Nodup
  backed : ∀ deduct ∈ s.deducts, ∃ credit ∈ s.credits, credit.session = deduct.1 ∧ credit.amount = deduct.2
  fired : ∀ pair ∈ s.fired, pair.1 = pair.2
  armies : ∀ army info, s.armies.lookup army = some info →
    (info.collecting = true → info.collectResource.isSome) ∧ ∀ session, info.collectResource = some session → session = s.node.session ∧ Unpaid s army
  taken : s.node.collectTime.isSome → s.free = false

structure Paid (s : State) (credit : Credit) : Prop where
  listed : s.listed = true
  session : credit.session = s.node.session
  credited : credit ∈ s.credits
  undeducted : credit.session ∉ s.deducts.map Prod.fst

-- What an army looked like when it was read.
def Read (s : State) (read : Key×Army) : Prop := Unpaid s read.1 ∧ read.2.collectResource = some s.node.session

-- What the handler at work may rely on.
def Work (s : State) : Option Handler → Prop
  | none | some (.asked _) => Timed s
  | some (.speed army session) | some (.taking army session) | some (.taken army session) => NoTimers s ∧ session = s.node.session ∧ Unpaid s army
  | some (.recalled army) | some (.role army) | some (.army army _) => Timed s ∧ Unpaid s army
  | some (.load army _ session _) => Timed s ∧ session = s.node.session ∧ Unpaid s army
  | some (.paid credit _) => (∀ timerId, (s.timers.lookup timerId).isSome → s.node.timerId = some timerId) ∧ Paid s credit
  | some (.entered credit _) | some (.leaving credit) => NoTimers s ∧ Paid s credit
  | some (.changed army info) | some (.measured army info) | some (.resent army info) => Timed s ∧ Read s (army,info)
  | some (.armies left) => Timed s ∧ ∀ read ∈ left, Read s read
  | some (.compared army info left) => Timed s ∧ ∀ read ∈ (army,info)::left, Read s read
  | some (.sped army info left) | some (.retimed army info left) => NoTimers s ∧ ∀ read ∈ (army,info)::left, Read s read

def Fine (s : State) (now : Option Handler) : Prop := Books s ∧ Work s now

end invariant

section frame

-- The parts of the state that sessions are about.
structure Core (s t : State) : Prop where
  listed : t.listed = s.listed
  time : t.node.collectTime = s.node.collectTime
  session : t.node.session = s.node.session
  started : t.started = s.started
  credits : t.credits = s.credits

theorem Unpaid.core (unpaid : Unpaid s army) (core : Core s t) : Unpaid t army := by
  obtain ⟨listed,time,session,started,credits⟩ := core
  refine ⟨listed.trans unpaid.listed,time ▸ unpaid.time,?_,?_⟩
  · rw [started,session]
    exact unpaid.started
  · rw [credits,session]
    exact unpaid.uncredited

theorem Timed.core (timed : Timed s) (core : Core s t) (timers : t.timers = s.timers) (timerId : t.node.timerId = s.node.timerId) : Timed t := by
  intro id timer live
  rw [timers] at live
  obtain ⟨mine,session,unpaid⟩ := timed id timer live
  exact ⟨timerId.trans mine,session.trans core.session.symm,unpaid.core core⟩

theorem Read.core {read : Key×Army} (fresh : Read s read) (core : Core s t) : Read t read :=
  ⟨fresh.1.core core,fresh.2.trans (congrArg some core.session.symm)⟩

theorem Books.core (books : Books s) (core : Core s t) (rid : t.node.collectRid = s.node.collectRid) (armies : t.armies = s.armies)
    (deducts : t.deducts = s.deducts) (fired : ∀ pair ∈ t.fired, pair.1 = pair.2) : Books t := by
  refine ⟨?_,?_,?_,?_,fired,?_,?_⟩
  · rw [core.credits]
    exact books.once
  · rw [core.credits,core.started]
    exact books.own
  · rw [deducts]
    exact books.deducted
  · rw [deducts,core.credits]
    exact books.backed
  · intro army info there
    rw [armies] at there
    obtain ⟨collecting,own⟩ := books.armies army info there
    refine ⟨collecting,fun session mine => ?_⟩
    obtain ⟨same,unpaid⟩ := own session mine
    exact ⟨same.trans core.session.symm,unpaid.core core⟩
  · intro time
    unfold State.free
    rw [rid]
    exact books.taken (core.time ▸ time)

theorem Work.core (work : Work s now) (core : Core s t) (timers : t.timers = s.timers) (timerId : t.node.timerId = s.node.timerId)
    (deducts : t.deducts = s.deducts) : Work t now := by
  have none (quiet : NoTimers s) : NoTimers t := fun id => (congrArg (fun table => table.lookup id) timers).trans (quiet id)
  have paid {credit : Credit} (paid : Paid s credit) : Paid t credit := by
    obtain ⟨listed,session,credited,undeducted⟩ := paid
    exact ⟨core.listed.trans listed,session.trans core.session.symm,by rwa [core.credits],by rwa [deducts]⟩
  rcases now with _ | handler
  · exact Timed.core work core timers timerId
  · cases handler with
    | asked => exact Timed.core work core timers timerId
    | speed | taking | taken =>
      obtain ⟨quiet,session,unpaid⟩ := work
      exact ⟨none quiet,session.trans core.session.symm,unpaid.core core⟩
    | recalled | role | army => exact ⟨Timed.core work.1 core timers timerId,work.2.core core⟩
    | load =>
      obtain ⟨timed,session,unpaid⟩ := work
      exact ⟨Timed.core timed core timers timerId,session.trans core.session.symm,unpaid.core core⟩
    | paid =>
      refine ⟨fun id live => ?_,paid work.2⟩
      rw [timers] at live
      exact timerId.trans (work.1 id live)
    | entered | leaving => exact ⟨none work.1,paid work.2⟩
    | changed | measured | resent => exact ⟨Timed.core work.1 core timers timerId,work.2.core core⟩
    | armies | compared => exact ⟨Timed.core work.1 core timers timerId,fun read mem => (work.2 read mem).core core⟩
    | sped | retimed => exact ⟨none work.1,fun read mem => (work.2 read mem).core core⟩

theorem NoTimers.timed (none : NoTimers s) : Timed s := fun id _ live => absurd (live.symm.trans (none id)) nofun

theorem Timed.mine (timed : Timed s) (id : Nat) (live : (s.timers.lookup id).isSome) : s.node.timerId = some id := by
  obtain ⟨timer,there⟩ := Option.isSome_iff_exists.mp live
  exact (timed id timer there).1

-- A paid session is not one to be paid.
theorem Paid.settled {credit : Credit} (paid : Paid s credit) : ¬Unpaid s army := fun unpaid =>
  unpaid.uncredited (paid.session ▸ List.mem_map_of_mem paid.credited)

theorem Unpaid.only {other : Key} (unpaid : Unpaid s army) (too : Unpaid s other) : army = other :=
  Option.some.inj (unpaid.started.symm.trans too.started)

end frame

section operations

theorem deleteTimer_core (s : State) : Core s s.deleteTimer := ⟨rfl,rfl,rfl,rfl,rfl⟩

theorem deleteTimer_none (mine : ∀ id, (s.timers.lookup id).isSome → s.node.timerId = some id) : NoTimers s.deleteTimer := by
  intro id
  unfold State.deleteTimer
  dsimp only
  cases timerId : s.node.timerId with
  | none =>
    rw [Option.elim_none]
    refine Option.not_isSome_iff_eq_none.mp (fun live => ?_)
    exact absurd ((mine id live).symm.trans timerId) nofun
  | some own =>
    rw [Option.elim_some]
    by_cases same : id = own
    · rw [same,AList.lookup_erase]
    · rw [AList.lookup_erase_ne same]
      refine Option.not_isSome_iff_eq_none.mp (fun live => ?_)
      exact same (Option.some.inj ((mine id live).symm.trans timerId))

theorem runTimer_core (s : State) (seconds : Int) (army : Key) (session : Nat) : Core s (s.runTimer seconds army session) := by
  refine ⟨rfl,?_,?_,rfl,rfl⟩ <;> · unfold State.runTimer; dsimp only; split <;> rfl

theorem runTimer_rid (s : State) (seconds : Int) (army : Key) (session : Nat) :
    (s.runTimer seconds army session).node.collectRid = s.node.collectRid := by
  unfold State.runTimer
  dsimp only
  split <;> rfl

theorem runTimer_timed (seconds : Int) (none : NoTimers s) (unpaid : Unpaid s army) (same : session = s.node.session) :
    Timed (s.runTimer seconds army session) := by
  intro id timer live
  have core := runTimer_core s seconds army session
  have own : (s.runTimer seconds army session).node.timerId = some s.timerId := by
    unfold State.runTimer
    dsimp only
    rw [if_pos unpaid.listed]
  change (s.timers.insert s.timerId _).lookup id = some timer at live
  by_cases new : id = s.timerId
  · subst new
    rw [AList.lookup_insert] at live
    cases live
    exact ⟨own,same.trans core.session.symm,unpaid.core core⟩
  · rw [AList.lookup_insert_ne new,none id] at live
    cases live

theorem Books.deleteTimer (books : Books s) : Books s.deleteTimer := books.core (deleteTimer_core s) rfl rfl rfl books.fired

theorem Books.runTimer (books : Books s) (seconds : Int) (army : Key) (session : Nat) : Books (s.runTimer seconds army session) :=
  books.core (runTimer_core s seconds army session) (runTimer_rid s seconds army session) rfl rfl books.fired

theorem Books.setArmy {change : Army → Army} (books : Books s) (fits : ∀ info, s.armies.lookup army = some info →
    ((change info).collecting = true → (change info).collectResource.isSome) ∧
      ∀ session, (change info).collectResource = some session → session = s.node.session ∧ Unpaid s army) : Books (s.setArmy army change) := by
  refine ⟨books.once,books.own,books.deducted,books.backed,books.fired,fun key held there => ?_,books.taken⟩
  have core : Core s (s.setArmy army change) := ⟨rfl,rfl,rfl,rfl,rfl⟩
  change (Table.modify s.armies army change).lookup key = some held at there
  by_cases same : key = army
  · subst same
    rw [Table.lookup_modify_self] at there
    obtain ⟨info,before,rfl⟩ := Option.map_eq_some_iff.mp there
    obtain ⟨collecting,own⟩ := fits info before
    exact ⟨collecting,fun session mine => ⟨(own session mine).1,(own session mine).2.core core⟩⟩
  · rw [Table.lookup_modify_ne _ _ same] at there
    obtain ⟨collecting,own⟩ := books.armies key held there
    exact ⟨collecting,fun session mine => ⟨(own session mine).1,(own session mine).2.core core⟩⟩

theorem setArmy_core (s : State) (army : Key) (change : Army → Army) : Core s (s.setArmy army change) := ⟨rfl,rfl,rfl,rfl,rfl⟩

-- Nobody gathers for a session that is over.
theorem Books.settled (books : Books s) (settled : ∀ army, ¬Unpaid s army) (there : s.armies.lookup army = some info) :
    info.collectResource = none ∧ ¬info.collecting = true := by
  obtain ⟨collecting,own⟩ := books.armies army info there
  have none : info.collectResource = none := by
    cases held : info.collectResource with
    | none => rfl
    | some session => exact absurd (own session held).2 (settled army)
  rw [none] at collecting
  exact ⟨none,fun busy => absurd (collecting busy) nofun⟩

end operations

section steps
variable {reply : Reply}

-- collectResource takes a node that nobody gathers at.
theorem taken_fine (books : Books s) (timed : Timed s) (listed : s.listed = true) (free : s.free = true) (army : Key) :
    Fine (collectResource s army).1 (collectResource s army).2 := by
  have idle : ¬s.node.collectTime.isSome := fun time => absurd (free.symm.trans (books.taken time)) nofun
  have over_ (key : Key) : ¬Unpaid s key := fun unpaid => idle unpaid.time
  unfold collectResource
  rw [if_pos ⟨listed,free⟩]
  have fresh : s.started.length ∉ s.credits.map Credit.session := by
    intro mem
    obtain ⟨credit,there,same⟩ := List.mem_map.mp mem
    have known := books.own credit there
    rw [same,List.getElem?_eq_none (Nat.le_refl _)] at known
    cases known
  refine ⟨⟨books.once,fun credit mem => ?_,books.deducted,books.backed,books.fired,fun key info there => ?_,fun _ => ?_⟩,?_,rfl,listed,rfl,?_,fresh⟩
  · have known := books.own credit mem
    exact (List.getElem?_append_left (List.getElem?_eq_some_iff.mp known).1).trans known
  · obtain ⟨none,calm⟩ := books.settled over_ there
    exact ⟨fun busy => absurd busy calm,fun session mine => absurd (none.symm.trans mine) nofun⟩
  · exact decide_eq_false (Nat.ne_of_gt army.real)
  · intro id
    cases live : s.timers.lookup id with
    | none => rfl
    | some timer => exact absurd (timed id timer live).2.2 (over_ timer.army)
  · exact List.getElem?_concat_length

theorem collectFinish_fine (books : Books s) (timed : Timed s) (unpaid : Unpaid s army) : Fine s (collectFinish s army) := by
  unfold collectFinish
  rw [if_pos unpaid.listed]
  exact ⟨books,timed,unpaid⟩

-- The credit of the session under way.
theorem load_fine {session : Nat} {collectNum : Int} (books : Books s) (timed : Timed s) (same : session = s.node.session) (unpaid : Unpaid s army) :
    Fine (resume reply (.load army info session collectNum) s).1 (resume reply (.load army info session collectNum) s).2 := by
  subst same
  have uncredited := unpaid.uncredited
  refine ⟨⟨List.nodup_cons.mpr ⟨uncredited,books.once⟩,fun credit mem => ?_,books.deducted,fun deduct mem => ?_,books.fired,fun key held there => ?_,
    books.taken⟩,fun id live => timed.mine id live,unpaid.listed,rfl,List.mem_cons_self,fun mem => ?_⟩
  · rcases List.mem_cons.mp mem with rfl | before
    · exact unpaid.started
    · exact books.own credit before
  · obtain ⟨credit,there,backs⟩ := books.backed deduct mem
    exact ⟨credit,List.mem_cons_of_mem _ there,backs⟩
  · change (Table.modify s.armies army _).lookup key = some held at there
    by_cases own : key = army
    · subst own
      rw [Table.lookup_modify_self] at there
      obtain ⟨_,_,rfl⟩ := Option.map_eq_some_iff.mp there
      exact ⟨nofun,nofun⟩
    · rw [Table.lookup_modify_ne _ _ own] at there
      obtain ⟨collecting,mine⟩ := books.armies key held there
      have none (session : Nat) : held.collectResource ≠ some session := fun back => own ((mine session back).2.only unpaid)
      refine ⟨fun busy => ?_,fun session back => absurd back (none session)⟩
      obtain ⟨session,back⟩ := Option.isSome_iff_exists.mp (collecting busy)
      exact absurd back (none session)
  · obtain ⟨deduct,there,back⟩ := List.mem_map.mp mem
    obtain ⟨credit,credited,same,_⟩ := books.backed deduct there
    exact uncredited (List.mem_map.mpr ⟨credit,credited,same.trans back⟩)

-- The end of collectFinish: the node is changed once for the credit.
theorem entered_fine {credit : Credit} {collectNum : Int} (books : Books s) (none : NoTimers s) (paid : Paid s credit) :
    Fine (resume reply (.entered credit collectNum) s).1 (resume reply (.entered credit collectNum) s).2 := by
  unfold resume
  dsimp only
  split
  · exact ⟨books,none,paid⟩
  · rw [if_pos paid.listed]
    refine ⟨⟨books.once,books.own,List.nodup_cons.mpr ⟨paid.undeducted,books.deducted⟩,fun deduct mem => ?_,books.fired,fun key info there => ?_,nofun⟩,?_⟩
    · rcases List.mem_cons.mp mem with rfl | before
      · exact ⟨credit,paid.credited,rfl,rfl⟩
      · exact books.backed deduct before
    · obtain ⟨nothing,calm⟩ := books.settled (fun _ => paid.settled) there
      exact ⟨fun busy => absurd busy calm,fun session mine => absurd (nothing.symm.trans mine) nofun⟩
    · have quiet := deleteTimer_none (fun id live => absurd (none id ▸ live) nofun)
      exact fun id timer live => absurd ((quiet id).symm.trans live) nofun

theorem leaving_fine {credit : Credit} (books : Books s) (none : NoTimers s) (paid : Paid s credit) :
    Fine (resume reply (.leaving credit) s).1 (resume reply (.leaving credit) s).2 := by
  refine ⟨⟨books.once,books.own,books.deducted,books.backed,books.fired,fun key info there => ?_,books.taken⟩,?_⟩
  · obtain ⟨nothing,calm⟩ := books.settled (fun _ => paid.settled) there
    exact ⟨fun busy => absurd busy calm,fun session mine => absurd (nothing.symm.trans mine) nofun⟩
  · exact fun id timer live => absurd ((none id).symm.trans live) nofun

theorem nextArmy_fine {left : List (Key×Army)} (books : Books s) (timed : Timed s) (reads : ∀ read ∈ left, Read s read) : Fine s (nextArmy s left) := by
  unfold nextArmy
  split
  · exact ⟨books,timed⟩
  next army info left =>
    rw [if_pos (reads (army,info) List.mem_cons_self).1.listed]
    exact ⟨books,timed,reads⟩

-- A timer is set anew for the session under way.
theorem runTimer_fine {read : Key×Army} (seconds : Int) (books : Books s) (none : NoTimers s) (fresh : Read s read) :
    Books (s.runTimer seconds read.1 (read.2.collectResource.getD s.node.session)) ∧
      Timed (s.runTimer seconds read.1 (read.2.collectResource.getD s.node.session)) :=
  ⟨books.runTimer seconds read.1 _,runTimer_timed seconds none fresh.1 (by rw [fresh.2,Option.getD_some])⟩

theorem resume_fine {handler : Handler} (works : handler.works = true) (fine : Fine s (some handler)) :
    Fine (resume reply handler s).1 (resume reply handler s).2 := by
  obtain ⟨books,work⟩ := fine
  cases handler with
  | asked => cases works
  | speed army session =>
    obtain ⟨none,same,unpaid⟩ := work
    unfold resume
    dsimp only
    rw [if_pos unpaid.listed]
    have core : Core s {s with node:={s.node with collectSpeed:=some reply.speed}} := ⟨rfl,rfl,rfl,rfl,rfl⟩
    exact ⟨books.core core rfl rfl rfl books.fired,none,same,unpaid.core core⟩
  | taking army session =>
    obtain ⟨none,same,unpaid⟩ := work
    unfold resume
    dsimp only
    rw [if_pos unpaid.listed]
    have core := setArmy_core s army (fun info => {info with collecting:=true, collectResource:=some session})
    refine ⟨books.setArmy (fun info _ => ⟨fun _ => rfl,fun n mine => ?_⟩),none,same,unpaid.core core⟩
    cases mine
    exact ⟨same,unpaid⟩
  | taken army session =>
    obtain ⟨none,same,unpaid⟩ := work
    exact ⟨books.runTimer reply.seconds army session,runTimer_timed reply.seconds none unpaid same⟩
  | recalled army => exact collectFinish_fine books work.1 work.2
  | role army =>
    unfold resume
    dsimp only
    cases s.armies.lookup army with
    | none => exact ⟨books,work.1⟩
    | some info => exact ⟨books,work.1,work.2⟩
  | army army info =>
    unfold resume
    dsimp only
    split
    · exact ⟨books,work.1,rfl,work.2⟩
    · exact ⟨books,work.1⟩
  | load army info session collectNum => exact load_fine books work.1 work.2.1 work.2.2
  | paid credit collectNum =>
    obtain ⟨mine,listed,session,credited,undeducted⟩ := work
    exact ⟨books.deleteTimer,deleteTimer_none mine,listed,session,credited,undeducted⟩
  | entered credit collectNum => exact entered_fine books work.1 work.2
  | leaving credit => exact leaving_fine books work.1 work.2
  | changed army info =>
    unfold resume
    dsimp only
    rw [if_pos work.2.1.listed]
    exact ⟨books,work⟩
  | measured army info =>
    obtain ⟨timed,fresh⟩ := work
    unfold resume
    dsimp only
    split
    · exact ⟨books,timed⟩
    · split
      · exact collectFinish_fine books timed fresh.1
      · have core := deleteTimer_core s
        obtain ⟨after,set_⟩ := runTimer_fine reply.seconds books.deleteTimer (deleteTimer_none timed.mine) (fresh.core core)
        rw [if_pos fresh.1.listed]
        exact ⟨after,set_,(fresh.core core).core (runTimer_core _ _ _ _)⟩
  | resent army info =>
    obtain ⟨timed,unpaid,own⟩ := work
    have core := setArmy_core s army (fun held => {held with collectResource:=info.collectResource})
    have own : info.collectResource = some s.node.session := own
    refine ⟨books.setArmy (fun held _ => ⟨fun _ => own ▸ rfl,fun n mine => ⟨?_,unpaid⟩⟩),timed.core core rfl rfl⟩
    exact Option.some.inj (mine.symm.trans own)
  | armies left => exact nextArmy_fine books work.1 work.2
  | compared army info left =>
    obtain ⟨timed,reads⟩ := work
    have fresh := reads (army,info) List.mem_cons_self
    unfold resume
    dsimp only
    split
    · exact nextArmy_fine books timed (fun read mem => reads read (List.mem_cons_of_mem _ mem))
    · rw [if_pos fresh.1.listed,if_pos fresh.1.time]
      have core : Core s {s.deleteTimer with node:={s.node with collectSpeed:=some reply.speed}} := ⟨rfl,rfl,rfl,rfl,rfl⟩
      exact ⟨books.core core rfl rfl rfl books.fired,deleteTimer_none timed.mine,fun read mem => (reads read mem).core core⟩
  | sped army info left =>
    obtain ⟨none,reads⟩ := work
    have core := setArmy_core s army (fun _ => info)
    obtain ⟨unpaid,own⟩ := reads (army,info) List.mem_cons_self
    have own : info.collectResource = some s.node.session := own
    refine ⟨books.setArmy (fun held _ => ⟨fun _ => own ▸ rfl,fun n mine => ⟨?_,unpaid⟩⟩),none,fun read mem => (reads read mem).core core⟩
    exact Option.some.inj (mine.symm.trans own)
  | retimed army info left =>
    obtain ⟨none,reads⟩ := work
    have fresh := reads (army,info) List.mem_cons_self
    obtain ⟨after,set_⟩ := runTimer_fine reply.seconds books none fresh
    unfold resume
    dsimp only
    rw [if_pos fresh.1.listed]
    exact nextArmy_fine after set_ (fun read mem => (reads read (List.mem_cons_of_mem _ mem)).core (runTimer_core _ _ _ _))

-- What a call leaves, and whom it puts to work.
theorem Work.live {id : Nat} (work : Work s now) (live : (s.timers.lookup id).isSome) : s.listed = true := by
  have timed (timed : Timed s) : s.listed = true := by
    obtain ⟨timer,there⟩ := Option.isSome_iff_exists.mp live
    exact (timed id timer there).2.2.listed
  have none (none : NoTimers s) : s.listed = true := absurd (none id ▸ live) nofun
  rcases now with _ | handler
  · exact timed work
  · cases handler with
    | asked => exact timed work
    | speed | taking | taken => exact none work.1
    | recalled | role | army | load => exact timed work.1
    | paid => exact work.2.listed
    | entered | leaving => exact none work.1
    | changed | measured | resent | armies | compared => exact timed work.1
    | sped | retimed => exact none work.1

-- The army and the node agree on who gathers when nobody is at work.
theorem Books.read (books : Books s) (there : s.armies.lookup army = some info) (gathers : info.collectResource.isSome) : Read s (army,info) := by
  obtain ⟨session,mine⟩ := Option.isSome_iff_exists.mp gathers
  obtain ⟨rfl,unpaid⟩ := (books.armies army info there).2 session mine
  exact ⟨unpaid,mine⟩

theorem timer_fine (fine : Fine s now) (timerId : Nat) (alone : (enter (.timer timerId) s).2.any Handler.works = true → now = none) :
    Fine (enter (.timer timerId) s).1 (((enter (.timer timerId) s).2.filter Handler.works).or now) := by
  obtain ⟨books,work⟩ := fine
  unfold enter at alone ⊢
  dsimp only at alone ⊢
  split
  · exact ⟨books,work⟩
  next timer live =>
    split
    · exact ⟨books,work⟩
    next due =>
      have held : Work s now := work
      have listed := held.live (Option.isSome_iff_exists.mpr ⟨timer,live⟩)
      rw [live] at alone
      dsimp only at alone
      rw [if_neg due,collectFinish,if_pos listed] at alone
      cases alone rfl
      obtain ⟨mine,session,unpaid⟩ := (show Timed s from work) timerId timer live
      rw [collectFinish,if_pos listed]
      have core : Core s {s with timers:=s.timers.erase timerId, fired:=(timer.session,s.node.session)::s.fired} := ⟨rfl,rfl,rfl,rfl,rfl⟩
      refine ⟨books.core core rfl rfl rfl (fun pair mem => ?_),fun id other still => ?_,unpaid.core core⟩
      · rcases List.mem_cons.mp mem with rfl | before
        · exact session
        · exact books.fired pair before
      · obtain ⟨own,session,unpaid⟩ := (show Timed s from work) id other (Table.found_erase still).2
        exact ⟨own,session,unpaid.core core⟩

theorem kept_or_begun {next : Option Handler} (fine : Fine s now) (alone : next.any Handler.works = true → now = none)
    (begun : ∀ handler, next = some handler → handler.works = true → Timed s → Work s (some handler)) : Fine s ((next.filter Handler.works).or now) := by
  obtain ⟨books,work⟩ := fine
  cases next with
  | none => exact ⟨books,work⟩
  | some handler =>
    rw [Option.filter_some]
    split
    next works =>
      cases alone works
      exact ⟨books,begun handler rfl works work⟩
    · exact ⟨books,work⟩

theorem begun_fine {next : Option Handler} (fine : Fine s next) : Fine s (next.filter Handler.works) := by
  cases next with
  | none => exact fine
  | some handler =>
    rw [Option.filter_some]
    split
    · exact fine
    next quiet =>
      cases handler with
      | asked => exact fine
      | _ => exact absurd rfl quiet

theorem keeps : KeepsAlone enter resume Handler.works Fine := by
  constructor
  · intro s request now fine alone
    cases request with
    | wait seconds => exact ⟨fine.1.core ⟨rfl,rfl,rfl,rfl,rfl⟩ rfl rfl rfl fine.1.fired,fine.2.core ⟨rfl,rfl,rfl,rfl,rfl⟩ rfl rfl rfl⟩
    | timer timerId => exact timer_fine fine timerId alone
    | collectResource army => exact fine
    | callBackArmy army =>
      unfold enter at alone ⊢
      dsimp only at alone ⊢
      split
      · exact fine
      next info there =>
        rw [there] at alone
        refine kept_or_begun fine alone (fun handler begins _ timed => ?_)
        split at begins
        next gathers =>
          cases begins
          exact ⟨timed,(fine.1.read there gathers).1⟩
        · cases begins
    | armyLoadChange army =>
      unfold enter at alone ⊢
      dsimp only at alone ⊢
      split
      · exact fine
      next key chosen =>
        rw [chosen] at alone
        dsimp only at alone
        split
        · exact fine
        next info there =>
          rw [there] at alone
          refine kept_or_begun fine alone (fun handler begins _ timed => ?_)
          split at begins
          next gathers =>
            cases begins
            exact ⟨timed,fine.1.read there ((fine.1.armies key info there).1 gathers.1)⟩
          · cases begins
    | collectSpeedChange order rid armyIndex =>
      unfold enter at alone ⊢
      dsimp only at alone ⊢
      refine kept_or_begun fine alone (fun handler begins _ timed => ?_)
      split at begins
      · cases begins
      · cases begins
        refine ⟨timed,fun read mem => ?_⟩
        obtain ⟨key,_,found⟩ := List.mem_filterMap.mp mem
        obtain ⟨info,there,chosen⟩ := Option.bind_eq_some_iff.mp found
        split at chosen
        next gathers =>
          cases chosen
          exact fine.1.read there gathers.2.2.2
        · cases chosen
  · intro s handler reply works fine
    exact begun_fine (resume_fine works fine)
  · intro s handler reply now quiet fine alone
    cases handler with
    | asked army =>
      change Fine (collectResource s army).1 (((collectResource s army).2.filter Handler.works).or now)
      change (collectResource s army).2.any Handler.works = true → now = none at alone
      by_cases takes : s.listed = true ∧ s.free = true
      · have begins : (collectResource s army).2.any Handler.works = true := by
          rw [collectResource,if_pos takes]
          rfl
        cases alone begins
        rw [Option.or_none]
        exact begun_fine (taken_fine fine.1 fine.2 takes.1 takes.2 army)
      · rw [collectResource,if_neg takes]
        exact fine
    | _ => cases quiet

-- The sessions of a node, over any run in which no handler begins to work on it while another
-- is at work.
theorem sessions_once (path : Runs (Guarded (Interleaves enter resume) (BeginsAlone enter resume Handler.works)) ⟨initial start amount loads,[]⟩ events service) :
    (service.shared.credits.map Credit.session).Nodup ∧
    (∀ credit ∈ service.shared.credits, service.shared.started[credit.session]? = some credit.army) ∧
    (service.shared.deducts.map Prod.fst).Nodup ∧
    (∀ deduct ∈ service.shared.deducts, ∃ credit ∈ service.shared.credits, credit.session = deduct.1 ∧ credit.amount = deduct.2) ∧
    (∀ pair ∈ service.shared.fired, pair.1 = pair.2) ∧
    ∀ first second one two, service.shared.armies.lookup first = some one → service.shared.armies.lookup second = some two →
      one.collectResource.isSome → two.collectResource.isSome → first = second := by
  have idle (army : Key) (info : Army) (there : (initial start amount loads).armies.lookup army = some info) :
      info.collecting = false ∧ info.collectResource = none := by
    change (Table.mapKeyed _ loads).lookup army = some info at there
    rw [Table.lookup_mapKeyed] at there
    obtain ⟨_,_,rfl⟩ := Option.map_eq_some_iff.mp there
    exact ⟨rfl,rfl⟩
  have fresh : Fine (initial start amount loads) none := by
    refine ⟨⟨.nil,nofun,.nil,nofun,nofun,fun army info there => ?_,nofun⟩,nofun⟩
    obtain ⟨calm,nothing⟩ := idle army info there
    exact ⟨fun busy => absurd (calm.symm.trans busy) nofun,fun session mine => absurd (nothing.symm.trans mine) nofun⟩
  obtain ⟨_,_,books,_⟩ := keeps.run path ⟨none,rfl,fresh⟩
  refine ⟨books.once,books.own,books.deducted,books.backed,books.fired,fun first second one two here there gathers too => ?_⟩
  exact (books.read here gathers).1.only (books.read there too).1

def farmer : Key := ⟨1,1,by decide⟩

def plenty : Reply := ⟨100,500,10000,100,false,false⟩

def gathering : List (Choice Request Reply) :=
  [.call (.collectResource farmer),.resume 0 plenty,.resume 0 plenty,.resume 0 plenty,.resume 0 plenty,.call (.wait 100)]

def calledBack : List (Choice Request Reply) := [.call (.callBackArmy farmer),.resume 0 plenty]

def settle : List (Choice Request Reply) := [.resume 0 plenty,.resume 0 plenty,.resume 0 plenty]

theorem gathering_paid : ∃ service : Service State Handler, service.shared.credits.map Credit.session = [0] ∧
    service.shared.deducts = [(0,100)] ∧ (service.shared.credits.map Credit.session).Nodup := by
  have reached : ∃ events last, Runs (Guarded (Interleaves enter resume) (BeginsAlone enter resume Handler.works))
      ⟨initial 0 1000 (AList.singleton farmer 0),[]⟩ events last ∧
      last.shared.credits.map Credit.session = [0] ∧ last.shared.deducts = [(0,100)] :=
    playIn_reaches _ (gathering++calledBack++settle++[.resume 0 plenty,.resume 0 plenty]) _ _ (by decide)
  obtain ⟨_,service,path,paid⟩ := reached
  exact ⟨service,paid.1,paid.2,(sessions_once path).1⟩

-- The timer fires while the army that was called back is being settled, and both pay it.
theorem session_paid_twice : ∃ events service, Runs (Interleaves enter resume) ⟨initial 0 1000 (AList.singleton farmer 0),[]⟩ events service ∧
    service.shared.started = [farmer] ∧ service.shared.credits.map Credit.session = [0,0] ∧ service.shared.deducts = [(0,100),(0,100)] ∧
      (service.shared.armies.lookup farmer).map Army.load = some 200 :=
  play_unguarded (gathering++calledBack++[.call (.timer 0),.resume 1 plenty,.resume 1 plenty,.resume 1 plenty]++settle++
    [.resume 1 plenty,.resume 1 plenty,.resume 0 plenty,.resume 0 plenty]) _ _ (by decide)

end steps

end OriginGame.ResourceCollect
