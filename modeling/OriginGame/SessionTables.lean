import OriginGame.AgentLogin

namespace OriginGame.AgentLogin
variable {s t : State} {username other rid : Nat} {mine : List Item}

section relations

-- The role of a session, where the session is there.
def ridAt (s : State) (username : Nat) : Option (Option Nat) := (s.agentNames.lookup username).map Session.rid

def Idle (s : State) (username : Nat) : Prop := ridAt s username = some none

structure Only (s : State) (rid username : Nat) : Prop where
  here : ridAt s username = some (some rid)
  only : ∀ other, ridAt s other = some (some rid) → other = username

def Absent (s : State) (rid : Nat) : Prop := ∀ username, ridAt s username ≠ some (some rid)

-- A role that a session is in: all tables name that session.
structure Live (s : State) (rid username : Nat) : Prop where
  only : Only s rid username
  uid : s.agentUids.lookup rid = some username
  handle : s.agentRidHandles.lookup rid = some ⟨1,username⟩
  loaded : s.loaded.lookup rid = some ()

structure Gone (s : State) (rid : Nat) : Prop where
  absent : Absent s rid
  uid : s.agentUids.lookup rid = none
  handle : s.agentRidHandles.lookup rid = none

def Settled (s : State) : Item → Prop
  | .session _ => True
  | .role rid => (∃ username, Live s rid username) ∨ Gone s rid

def Leaves (s : State) (l : Leaving) : Stage → Prop
  | .unload rid | .delRid rid => l.rid = some rid ∧ Only s rid l.username ∧ s.agentUids.lookup rid = some l.username ∧
      s.agentRidHandles.lookup rid = some ⟨1,l.username⟩
  | .deleted rid => l.rid = some rid ∧ Only s rid l.username ∧ s.agentUids.lookup rid = some l.username ∧ s.agentRidHandles.lookup rid = none
  | .gate =>
    match l.rid with
    | none => Idle s l.username
    | some rid => Only s rid l.username ∧ s.agentUids.lookup rid = none ∧ s.agentRidHandles.lookup rid = none

-- A role on its way to a session.
structure Coming (s : State) (username rid : Nat) (handle : Option RidHandle) (keeprole : Bool) : Prop where
  idle : Idle s username
  absent : Absent s rid
  uid : s.agentUids.lookup rid = none
  handle : s.agentRidHandles.lookup rid = handle
  loaded : keeprole = true → s.loaded.lookup rid = some ()

def relies (s : State) : Handler → Prop
  | .logout l stage => Leaves s l stage ∧ l.force = false
  | .roleAfk username rid keeprole old | .kick username rid keeprole old => Idle s username ∧ keeprole = true ∧ Live s rid old
  | .kicking username rid keeprole l stage => Idle s username ∧ keeprole = true ∧ s.loaded.lookup rid = some () ∧
      Leaves s l stage ∧ l.rid = some rid ∧ l.force = false ∧ stage ≠ .unload rid
  | .addRid username rid keeprole => Coming s username rid none keeprole
  | .roleLogin username rid keeprole => Coming s username rid (some ⟨1,username⟩) keeprole
  | .entering username rid => Coming s username rid (some ⟨1,username⟩) true
  | .pushed _ | .busyWait _ _ | .afk _ => True

end relations

section beside

-- What a step may change: sessions and roles among these items.
structure Beside (s t : State) (mine : List Item) : Prop where
  before : ∀ username rid, ridAt s username = some rid → ridAt t username = some rid ∨
    (∃ r, rid = some r ∧ .role r ∈ mine) ∨ rid = none ∧ .session username ∈ mine
  after : ∀ username rid, ridAt t username = some (some rid) → ridAt s username = some (some rid) ∨ .role rid ∈ mine
  uid : ∀ rid, .role rid ∉ mine → t.agentUids.lookup rid = s.agentUids.lookup rid
  handle : ∀ rid, .role rid ∉ mine → t.agentRidHandles.lookup rid = s.agentRidHandles.lookup rid
  loaded : ∀ rid, .role rid ∉ mine → t.loaded.lookup rid = s.loaded.lookup rid

theorem Idle.beside (idle : Idle s username) (step : Beside s t mine) (away : .session username ∉ mine) : Idle t username := by
  rcases step.before username none idle with same | ⟨r,no,_⟩ | ⟨_,own⟩
  · exact same
  · cases no
  · exact absurd own away

theorem Absent.beside (absent : Absent s rid) (step : Beside s t mine) (away : .role rid ∉ mine) : Absent t rid := fun username there =>
  (step.after username rid there).elim (absent username) away

theorem Only.beside (only : Only s rid username) (step : Beside s t mine) (away : .role rid ∉ mine) : Only t rid username := by
  refine ⟨?_,fun other there => (step.after other rid there).elim (only.only other) (fun own => absurd own away)⟩
  rcases step.before username (some rid) only.here with same | ⟨r,same,own⟩ | ⟨no,_⟩
  · exact same
  · cases same
    exact absurd own away
  · cases no

theorem Live.beside (live : Live s rid username) (step : Beside s t mine) (away : .role rid ∉ mine) : Live t rid username :=
  ⟨live.only.beside step away,(step.uid rid away).trans live.uid,(step.handle rid away).trans live.handle,(step.loaded rid away).trans live.loaded⟩

theorem Gone.beside (gone : Gone s rid) (step : Beside s t mine) (away : .role rid ∉ mine) : Gone t rid :=
  ⟨gone.absent.beside step away,(step.uid rid away).trans gone.uid,(step.handle rid away).trans gone.handle⟩

theorem Coming.beside {handle : Option RidHandle} {keeprole : Bool} (coming : Coming s username rid handle keeprole) (step : Beside s t mine)
    (alone : .session username ∉ mine) (away : .role rid ∉ mine) : Coming t username rid handle keeprole :=
  ⟨coming.idle.beside step alone,coming.absent.beside step away,(step.uid rid away).trans coming.uid,(step.handle rid away).trans coming.handle,
    fun keeps => (step.loaded rid away).trans (coming.loaded keeps)⟩

theorem settled_beside {item : Item} (settled : Settled s item) (step : Beside s t mine) (away : item ∉ mine) : Settled t item := by
  cases item with
  | session => trivial
  | role rid =>
    rcases settled with ⟨username,live⟩ | gone
    · exact .inl ⟨username,live.beside step away⟩
    · exact .inr (gone.beside step away)

theorem Leaves.beside {l : Leaving} {stage : Stage} (leaves : Leaves s l stage) (step : Beside s t mine)
    (alone : l.rid = none → .session l.username ∉ mine) (away : ∀ rid, l.rid = some rid → .role rid ∉ mine) : Leaves t l stage := by
  cases stage with
  | unload rid | delRid rid | deleted rid =>
    obtain ⟨own,only,uid,handle⟩ := leaves
    have away := away rid own
    exact ⟨own,only.beside step away,(step.uid rid away).trans uid,(step.handle rid away).trans handle⟩
  | gate =>
    unfold Leaves at leaves ⊢
    dsimp only at leaves ⊢
    split
    next none =>
      rw [none] at leaves
      exact Idle.beside leaves step (alone none)
    next rid own =>
      rw [own] at leaves
      obtain ⟨only,uid,handle⟩ := leaves
      have away := away rid own
      exact ⟨only.beside step away,(step.uid rid away).trans uid,(step.handle rid away).trans handle⟩

theorem relies_beside {handler : Handler} (held : relies s handler) (step : Beside s t mine) (apart : ∀ item ∈ mine, item ∉ handler.items) :
    relies t handler := by
  have away (item : Item) (own : item ∈ handler.items) : item ∉ mine := fun there => apart item there own
  cases handler with
  | logout l stage =>
    obtain ⟨leaves,force⟩ := held
    refine ⟨leaves.beside step (fun _ => away _ List.mem_cons_self) (fun rid own => away _ (List.mem_cons_of_mem _ ?_)),force⟩
    rw [own]
    exact List.mem_singleton_self _
  | roleAfk username rid keeprole old | kick username rid keeprole old =>
    obtain ⟨idle,keeps,live⟩ := held
    exact ⟨idle.beside step (away _ List.mem_cons_self),keeps,live.beside step (away _ (List.mem_cons_of_mem _ List.mem_cons_self))⟩
  | kicking username rid keeprole l stage =>
    obtain ⟨idle,keeps,loaded,leaves,own,force,further⟩ := held
    have mine := away (.role rid) (List.mem_cons_of_mem _ List.mem_cons_self)
    refine ⟨idle.beside step (away _ List.mem_cons_self),keeps,(step.loaded rid mine).trans loaded,leaves.beside step (fun none => ?_) (fun r same => ?_),
      own,force,further⟩
    · exact absurd (own.symm.trans none) nofun
    · cases own.symm.trans same
      exact mine
  | addRid username rid keeprole | roleLogin username rid keeprole | entering username rid =>
    exact Coming.beside held step (away _ List.mem_cons_self) (away _ (List.mem_cons_of_mem _ List.mem_cons_self))
  | pushed | busyWait | afk => trivial

end beside

section steps

theorem beside_same (rids : ∀ username, ridAt t username = ridAt s username) (uid : t.agentUids = s.agentUids)
    (handle : t.agentRidHandles = s.agentRidHandles) (loaded : t.loaded = s.loaded) : Beside s t mine :=
  ⟨fun username rid there => .inl ((rids username).trans there),fun username _ there => .inl ((rids username).symm.trans there),
    fun _ _ => by rw [uid],fun _ _ => by rw [handle],fun _ _ => by rw [loaded]⟩

theorem ridAt_kept {change : Session → Session} (same : ∀ session, (change session).rid = session.rid) (s : State) (username other : Nat) :
    ridAt (s.setSession username change) other = ridAt s other := by
  change ((Table.modify s.agentNames username change).lookup other).map Session.rid = _
  by_cases own : other = username
  · rw [own,Table.lookup_modify_self,Option.map_map]
    exact congrArg (fun view => (s.agentNames.lookup username).map view) (funext same)
  · rw [Table.lookup_modify_ne _ _ own]
    rfl

theorem beside_session {change : Session → Session} (same : ∀ session, (change session).rid = session.rid) (s : State) (username : Nat) :
    Beside s (s.setSession username change) mine := beside_same (ridAt_kept same s username) rfl rfl rfl

theorem goAfk_beside (s : State) (username : Nat) (onlyClean : Bool) : Beside s (goAfk s username onlyClean).1 mine := by
  unfold goAfk
  dsimp only
  split
  · exact beside_session (by exact fun _ => rfl) s username
  · exact beside_session (by exact fun _ => rfl) s username

theorem goAfk_next (onlyClean : Bool) : ∀ next ∈ (goAfk s username onlyClean).2, next = .afk username := by
  unfold goAfk
  dsimp only
  split
  · rintro next ⟨⟩
    rfl
  · exact nofun

theorem ridAt_gone (s : State) (username other : Nat) :
    ridAt {s with agentNames:=s.agentNames.erase username} other = if other = username then none else ridAt s other := by
  change ((s.agentNames.erase username).lookup other).map Session.rid = _
  split
  next own => rw [own,AList.lookup_erase,Option.map_none]
  next away => rw [AList.lookup_erase_ne away]; rfl

-- A session with one reference in AgentMgr leaves nothing behind there.
theorem delRid_one (there : s.agentRidHandles.lookup rid = some ⟨1,username⟩) :
    s.delRid rid username = {s with agentRidHandles:=s.agentRidHandles.erase rid} := by
  unfold State.delRid
  rw [there]
  dsimp only
  rw [if_neg (not_not.mpr rfl),if_pos (by decide)]

section leaving
variable {l : Leaving} {stage : Stage}

theorem leaveUid_gate (force : l.force = false) : leaveUid s l =
    ({s with agentUids:=l.rid.elim s.agentUids (fun rid => s.agentUids.erase rid)},some (l,.gate)) := by
  unfold leaveUid
  rw [force]
  rfl

theorem logoutOn_beside (leaves : Leaves s l stage) (force : l.force = false) (alone : l.rid = none → .session l.username ∈ mine)
    (own : ∀ rid, l.rid = some rid → .role rid ∈ mine) : Beside s (logoutOn s l stage).1 mine := by
  cases stage with
  | unload rid =>
    have mine := own rid leaves.1
    refine ⟨fun _ _ => .inl,fun _ _ => .inl,fun _ _ => rfl,fun _ _ => rfl,fun other away => AList.lookup_erase_ne ?_⟩
    rintro rfl
    exact away mine
  | delRid rid =>
    have mine := own rid leaves.1
    unfold logoutOn
    dsimp only
    rw [delRid_one leaves.2.2.2]
    refine ⟨fun _ _ => .inl,fun _ _ => .inl,fun _ _ => rfl,fun other away => AList.lookup_erase_ne ?_,fun _ _ => rfl⟩
    rintro rfl
    exact away mine
  | deleted rid =>
    have mine := own rid leaves.1
    unfold logoutOn
    dsimp only
    rw [leaveUid_gate force,leaves.1]
    refine ⟨fun _ _ => .inl,fun _ _ => .inl,fun other away => AList.lookup_erase_ne ?_,fun _ _ => rfl,fun _ _ => rfl⟩
    rintro rfl
    exact away mine
  | gate =>
    -- The session that goes is its own, with the role it had.
    have held : ridAt s l.username = some l.rid := by
      unfold Leaves at leaves
      dsimp only at leaves
      split at leaves
      next none => rw [none]; exact leaves
      next rid same => rw [same]; exact leaves.1.here
    refine ⟨fun username rid there => ?_,fun username rid there => .inl ?_,fun _ _ => rfl,fun _ _ => rfl,fun _ _ => rfl⟩
    · by_cases self : username = l.username
      · subst self
        have same : l.rid = rid := Option.some.inj (held.symm.trans there)
        cases rid with
        | none => exact .inr (.inr ⟨rfl,alone same⟩)
        | some rid => exact .inr (.inl ⟨rid,rfl,own rid same⟩)
      · exact .inl ((ridAt_gone s l.username username).trans ((if_neg self).trans there))
    · have there := (ridAt_gone s l.username username).symm.trans there
      split at there
      · cases there
      · exact there

theorem logoutOn_same (s : State) (l : Leaving) (stage : Stage) : ∀ next ∈ (logoutOn s l stage).2, next.1 = l := by
  cases stage with
  | unload | delRid =>
    rintro next ⟨⟩
    rfl
  | deleted =>
    unfold logoutOn leaveUid
    dsimp only
    split
    · exact nofun
    · rintro next ⟨⟩
      rfl
  | gate => exact nofun

theorem logoutOn_leaves (leaves : Leaves s l stage) (force : l.force = false) :
    ∀ next ∈ (logoutOn s l stage).2, Leaves (logoutOn s l stage).1 l next.2 ∧ ∀ rid, next.2 ≠ .unload rid := by
  cases stage with
  | unload rid =>
    rintro next ⟨⟩
    obtain ⟨own,only,uid,handle⟩ := leaves
    exact ⟨⟨own,⟨only.here,only.only⟩,uid,handle⟩,nofun⟩
  | delRid rid =>
    rintro next ⟨⟩
    obtain ⟨own,only,uid,handle⟩ := leaves
    refine ⟨?_,nofun⟩
    unfold logoutOn
    dsimp only
    rw [delRid_one handle]
    exact ⟨own,⟨only.here,only.only⟩,uid,AList.lookup_erase rid s.agentRidHandles⟩
  | deleted rid =>
    obtain ⟨own,only,_,handle⟩ := leaves
    unfold logoutOn
    dsimp only
    rw [leaveUid_gate force]
    rintro next ⟨⟩
    refine ⟨?_,nofun⟩
    unfold Leaves
    dsimp only
    rw [own]
    exact ⟨⟨only.here,only.only⟩,AList.lookup_erase rid s.agentUids,handle⟩
  | gate => exact nofun

-- What a logout leaves of its role.
theorem logoutOn_gone (leaves : Leaves s l stage) (force : l.force = false) (done : (logoutOn s l stage).2 = none) (own : l.rid = some rid) :
    Gone (logoutOn s l stage).1 rid := by
  cases stage with
  | unload | delRid => cases done
  | deleted =>
    unfold logoutOn at done
    dsimp only at done
    rw [leaveUid_gate force] at done
    cases done
  | gate =>
    unfold Leaves at leaves
    dsimp only at leaves
    rw [own] at leaves
    obtain ⟨only,uid,handle⟩ := leaves
    refine ⟨fun username there => ?_,uid,handle⟩
    have there := (ridAt_gone s l.username username).symm.trans there
    split at there
    · cases there
    next away => exact away (only.only username there)

theorem logoutOn_loaded (leaves : Leaves s l stage) (further : ∀ rid, l.rid = some rid → stage ≠ .unload rid) :
    (logoutOn s l stage).1.loaded = s.loaded := by
  cases stage with
  | unload rid => exact absurd rfl (further rid leaves.1)
  | delRid rid =>
    unfold logoutOn
    dsimp only
    rw [delRid_one leaves.2.2.2]
  | deleted =>
    unfold logoutOn leaveUid
    dsimp only
    split <;> rfl
  | gate => rfl

end leaving

theorem addRid_new (there : s.agentRidHandles.lookup rid = none) (username : Nat) :
    s.addRid rid username = {s with agentRidHandles:=s.agentRidHandles.insert rid ⟨1,username⟩} := by
  unfold State.addRid
  rw [there]

-- A session enters its role.
theorem ridAt_entered (idle : Idle s username) (rid other : Nat) :
    ridAt (s.setSession username (fun session => {session with rid:=some rid})) other = if other = username then some (some rid) else ridAt s other := by
  change ((Table.modify s.agentNames username _).lookup other).map Session.rid = _
  split
  next own =>
    obtain ⟨session,there,_⟩ := Option.map_eq_some_iff.mp (show (s.agentNames.lookup username).map Session.rid = some none from idle)
    rw [own,Table.lookup_modify_self,there]
    rfl
  next away =>
    rw [Table.lookup_modify_ne _ _ away]
    rfl

-- The logout that a login begins and waits for.
theorem kick_logout (live : Live s rid username) : logout s username true false = (s,some (⟨username,some rid,false⟩,.delRid rid)) := by
  obtain ⟨session,there,own⟩ := Option.map_eq_some_iff.mp live.only.here
  unfold logout
  rw [there]
  dsimp only
  rw [own]
  rfl

theorem kicked_beside {keeprole : Bool} {waits : State×Option (Leaving×Stage)} (step : Beside s waits.1 mine) :
    Beside s (kicked username rid keeprole waits).1 mine := by
  obtain ⟨after,_ | ⟨l,stage⟩⟩ := waits <;> exact step

theorem resume_beside {handler : Handler} (held : relies s handler) : Beside s (resume () handler s).1 handler.items := by
  have refl {mine : List Item} : Beside s s mine := beside_same (fun _ => rfl) rfl rfl rfl
  cases handler with
  | logout l stage =>
    refine logoutOn_beside held.1 held.2 (fun _ => List.mem_cons_self) (fun rid own => List.mem_cons_of_mem _ ?_)
    rw [own]
    exact List.mem_singleton_self _
  | roleAfk => exact refl
  | kick username rid keeprole old =>
    obtain ⟨_,rfl,live⟩ := held
    change Beside s (kicked _ _ _ (logout s old true false)).1 _
    rw [kick_logout live]
    exact refl
  | kicking username rid keeprole l stage =>
    obtain ⟨_,_,_,leaves,own,force,_⟩ := held
    refine kicked_beside (logoutOn_beside leaves force (fun none => ?_) (fun r same => ?_))
    · exact absurd (own.symm.trans none) nofun
    · cases own.symm.trans same
      exact List.mem_cons_of_mem _ List.mem_cons_self
  | addRid username rid keeprole =>
    have coming : Coming s username rid none keeprole := held
    unfold resume
    dsimp only
    rw [addRid_new coming.handle]
    refine ⟨fun _ _ => .inl,fun _ _ => .inl,fun _ _ => rfl,fun other away => AList.lookup_insert_ne ?_,fun _ _ => rfl⟩
    rintro rfl
    exact away (List.mem_cons_of_mem _ List.mem_cons_self)
  | roleLogin username rid keeprole =>
    cases keeprole with
    | true => exact refl
    | false =>
      refine ⟨fun _ _ => .inl,fun _ _ => .inl,fun _ _ => rfl,fun _ _ => rfl,fun other away => AList.lookup_insert_ne ?_⟩
      rintro rfl
      exact away (List.mem_cons_of_mem _ List.mem_cons_self)
  | entering username rid =>
    have coming : Coming s username rid (some ⟨1,username⟩) true := held
    have mem : .role rid ∈ (Handler.entering username rid).items := List.mem_cons_of_mem _ List.mem_cons_self
    refine ⟨fun other r there => ?_,fun other r there => ?_,fun other away => AList.lookup_insert_ne ?_,fun _ _ => rfl,fun _ _ => rfl⟩
    · by_cases self : other = username
      · subst self
        exact .inr (.inr ⟨Option.some.inj (there.symm.trans coming.idle),List.mem_cons_self⟩)
      · exact .inl ((ridAt_entered coming.idle rid other).trans ((if_neg self).trans there))
    · have there := (ridAt_entered coming.idle rid other).symm.trans there
      split at there
      · cases there
        exact .inr mem
      · exact .inl there
    · rintro rfl
      exact away mem
  | pushed => exact beside_session (by exact fun _ => rfl) s _
  | busyWait username onlyClean => exact goAfk_beside s username onlyClean
  | afk => exact beside_session (by exact fun _ => rfl) s _

theorem resume_relies {handler : Handler} (held : relies s handler) : ∀ next ∈ (resume () handler s).2, relies (resume () handler s).1 next := by
  cases handler with
  | logout l stage =>
    obtain ⟨leaves,force⟩ := held
    intro next mem
    obtain ⟨waits,there,rfl⟩ := Option.map_eq_some_iff.mp mem
    rw [logoutOn_same s l stage waits there]
    exact ⟨(logoutOn_leaves leaves force waits there).1,force⟩
  | roleAfk username rid keeprole old =>
    rintro next ⟨⟩
    exact held
  | kick username rid keeprole old =>
    obtain ⟨idle,rfl,live⟩ := held
    change ∀ next ∈ (kicked _ _ _ (logout s old true false)).2, relies (kicked _ _ _ (logout s old true false)).1 next
    rw [kick_logout live]
    rintro next ⟨⟩
    exact ⟨idle,rfl,live.loaded,⟨rfl,live.only,live.uid,live.handle⟩,rfl,rfl,nofun⟩
  | kicking username rid keeprole l stage =>
    obtain ⟨idle,keeps,loaded,leaves,own,force,further⟩ := held
    have same := logoutOn_loaded leaves (fun r there => by cases own.symm.trans there; exact further)
    have step : Beside s (logoutOn s l stage).1 [.role rid] := by
      refine logoutOn_beside leaves force (fun none => absurd (own.symm.trans none) nofun) (fun r there => ?_)
      cases own.symm.trans there
      exact List.mem_cons_self
    -- Another session's logout leaves this one where it was.
    have still := idle.beside step (fun mem => absurd (List.mem_singleton.mp mem) nofun)
    have onward := logoutOn_leaves leaves force
    have gone := fun done => logoutOn_gone leaves force done own
    have chosen := logoutOn_same s l stage
    change ∀ next ∈ (kicked _ _ _ (logoutOn s l stage)).2, relies (kicked _ _ _ (logoutOn s l stage)).1 next
    revert same still onward gone chosen
    generalize logoutOn s l stage = waits
    intro same still onward gone chosen
    obtain ⟨after,_ | ⟨m,further⟩⟩ := waits
    · rintro next ⟨⟩
      have gone := gone rfl
      exact ⟨still,gone.absent,gone.uid,gone.handle,fun _ => same ▸ loaded⟩
    · rintro next ⟨⟩
      obtain rfl : m = l := chosen (m,further) rfl
      obtain ⟨leaves,past⟩ := onward (m,further) rfl
      exact ⟨still,keeps,same ▸ loaded,leaves,own,force,past rid⟩
  | addRid username rid keeprole =>
    obtain ⟨idle,absent,uid,handle,loaded⟩ := held
    unfold resume
    dsimp only
    rw [addRid_new handle]
    rintro next ⟨⟩
    exact ⟨idle,absent,uid,AList.lookup_insert _,loaded⟩
  | roleLogin username rid keeprole =>
    obtain ⟨idle,absent,uid,handle,loaded⟩ := held
    cases keeprole with
    | true =>
      rintro next ⟨⟩
      exact ⟨idle,absent,uid,handle,loaded⟩
    | false =>
      rintro next ⟨⟩
      exact ⟨idle,absent,uid,handle,fun _ => AList.lookup_insert _⟩
  | entering =>
    rintro next ⟨⟩
    trivial
  | pushed | afk => exact nofun
  | busyWait username onlyClean =>
    intro next mem
    obtain rfl := goAfk_next onlyClean next mem
    trivial

theorem kicked_next (username rid : Nat) (keeprole : Bool) (waits : State×Option (Leaving×Stage)) :
    ∃ next, (kicked username rid keeprole waits).2 = some next ∧ next.items = [.session username,.role rid] := by
  obtain ⟨after,_ | ⟨l,stage⟩⟩ := waits
  · exact ⟨_,rfl,rfl⟩
  · exact ⟨_,rfl,rfl⟩

theorem resume_shrinks (handler : Handler) : ∀ next ∈ (resume () handler s).2, next.items ⊆ handler.items := by
  have same {items : List Item} : items ⊆ items := fun _ => id
  have kicked_same (username rid : Nat) (keeprole : Bool) (waits : State×Option (Leaving×Stage)) :
      ∀ next ∈ (kicked username rid keeprole waits).2, next.items ⊆ [.session username,.role rid] := by
    intro next mem
    obtain ⟨other,there,items⟩ := kicked_next username rid keeprole waits
    cases there.symm.trans mem
    rw [items]
    exact same
  cases handler with
  | logout l stage =>
    intro next mem
    obtain ⟨waits,there,rfl⟩ := Option.map_eq_some_iff.mp mem
    rw [logoutOn_same s l stage waits there]
    exact same
  | roleAfk | addRid | roleLogin =>
    rintro next ⟨⟩
    exact same
  | kick => exact kicked_same _ _ _ _
  | kicking => exact kicked_same _ _ _ _
  | entering =>
    rintro next ⟨⟩
    exact List.nil_subset _
  | pushed | afk => exact nofun
  | busyWait username onlyClean =>
    intro next mem
    obtain rfl := goAfk_next onlyClean next mem
    exact same

-- What a handler leaves of an item that it lets go.
theorem resume_settled {handler : Handler} {item : Item} (held : relies s handler) (own : item ∈ handler.items)
    (free : ∀ next ∈ (resume () handler s).2, item ∉ next.items) : Settled (resume () handler s).1 item := by
  cases item with
  | session => trivial
  | role rid =>
    cases handler with
    | logout l stage =>
      obtain ⟨leaves,force⟩ := held
      have mine : l.rid = some rid := by
        have there := (List.mem_cons.mp own).resolve_left nofun
        obtain ⟨r,known,same⟩ := Option.map_eq_some_iff.mp (Option.mem_toList.mp there)
        cases same
        exact known
      cases done : (logoutOn s l stage).2 with
      | none => exact .inr (logoutOn_gone leaves force done mine)
      | some waits =>
        have same := logoutOn_same s l stage waits done
        refine absurd own (same ▸ free (.logout waits.1 waits.2) ?_)
        exact Option.map_eq_some_iff.mpr ⟨waits,done,rfl⟩
    | roleAfk username r keeprole old => exact absurd own (free (.kick username r keeprole old) rfl)
    | kick username r keeprole old =>
      obtain ⟨next,there,items⟩ := kicked_next username r keeprole (logout s old keeprole false)
      exact absurd (by rw [items]; exact own) (free next there)
    | kicking username r keeprole l stage =>
      obtain ⟨next,there,items⟩ := kicked_next username r keeprole (logoutOn s l stage)
      exact absurd (by rw [items]; exact own) (free next there)
    | addRid username r keeprole => exact absurd own (free (.roleLogin username r keeprole) rfl)
    | roleLogin username r keeprole => exact absurd own (free (.entering username r) rfl)
    | entering username r =>
      obtain rfl : rid = r := by simpa [Handler.items] using own
      obtain ⟨idle,absent,_,handle,loaded⟩ := (show Coming s username rid (some ⟨1,username⟩) true from held)
      refine .inl ⟨username,⟨?_,fun other there => ?_⟩,AList.lookup_insert _,handle,loaded rfl⟩
      · exact (ridAt_entered idle rid username).trans (if_pos rfl)
      · have there := (ridAt_entered idle rid other).symm.trans there
        split at there
        next same => exact same
        · exact absurd there (absent other)
    | pushed | busyWait | afk => cases own

theorem enter_beside (request : Request) (s : State) : Beside s (enter request s).1 [] := by
  have refl : Beside s s [] := beside_same (fun _ => rfl) rfl rfl rfl
  cases request with
  | login =>
    unfold enter
    dsimp only
    split
    · exact beside_same (fun _ => rfl) rfl rfl rfl
    next fresh =>
      have missing : s.agentNames.lookup (s.internalId+1) = none := Option.not_isSome_iff_eq_none.mp fresh
      have rids (username : Nat) : ridAt {s with internalId:=s.internalId+1, agentNames:=s.agentNames.insert (s.internalId+1) ⟨.prelogin,none,false,none⟩} username =
          if username = s.internalId+1 then some none else ridAt s username := by
        change ((s.agentNames.insert (s.internalId+1) _).lookup username).map Session.rid = _
        split
        next own => rw [own,AList.lookup_insert]; rfl
        next away => rw [AList.lookup_insert_ne away]; rfl
      refine ⟨fun username rid there => .inl ?_,fun username rid there => .inl ?_,fun _ _ => rfl,fun _ _ => rfl,fun _ _ => rfl⟩
      · rw [rids,if_neg]
        · exact there
        · rintro rfl
          unfold ridAt at there
          rw [missing] at there
          cases there
      · rw [rids] at there
        split at there
        · cases there
        · exact there
  | auth username fd => exact beside_session (by exact fun _ => rfl) s username
  | afk username fd busy onlyClean =>
    unfold enter
    dsimp only
    split
    · exact refl
    · split
      · split
        · exact refl
        · exact goAfk_beside s username onlyClean
      · exact refl
  | logout username =>
    change Beside s (logout s username false false).1 []
    unfold logout
    split
    · exact refl
    · split
      · exact beside_same (fun _ => rfl) rfl rfl rfl
      · exact refl
  | onRolelogin => exact refl

-- A session enters one role, once.
def Once (s : State) : Event Request Handler Unit → Prop
  | .call (.onRolelogin username _) => (s.agentNames.lookup username).all (fun session => session.rid.isNone) = true
  | _ => True

instance (s : State) : (event : Event Request Handler Unit) → Decidable (Once s event)
  | .call (.onRolelogin _ _) => inferInstanceAs (Decidable (_ = true))
  | .call .login | .call (.auth _ _) | .call (.afk _ _ _ _) | .call (.logout _) | .resume _ _ => isTrue trivial

theorem onRolelogin_relies (once : Once s (.call (.onRolelogin username rid))) :
    ∀ next ∈ onRolelogin s username rid, (∀ item ∈ next.items, Settled s item) → relies s next := by
  unfold onRolelogin
  split
  · exact nofun
  next session there =>
    have idle : Idle s username := by
      unfold Once at once
      dsimp only at once
      rw [there,Option.all_some,Option.isNone_iff_eq_none] at once
      rw [Idle,ridAt,there,Option.map_some,once]
    split
    · exact nofun
    · split
      next nobody =>
        rintro next ⟨⟩ settled
        rcases settled (.role rid) (List.mem_cons_of_mem _ List.mem_cons_self) with ⟨holder,live⟩ | gone
        · exact absurd (live.uid.symm.trans nobody) nofun
        · exact ⟨idle,gone.absent,gone.uid,gone.handle,nofun⟩
      next old named =>
        split
        · exact nofun
        next held known =>
          dsimp only
          -- The role that the uid's table names is in that session.
          have live (settled : Settled s (.role rid)) : Live s rid old := by
            rcases settled with ⟨holder,live⟩ | gone
            · cases live.uid.symm.trans named
              exact live
            · exact absurd (gone.uid.symm.trans named) nofun
          have keeps (live : Live s rid old) : held.rid = some rid := by
            have here := live.only.here
            rw [ridAt,known] at here
            exact Option.some.inj here
          split
          next self =>
            rintro next ⟨⟩ settled
            have here := (live (settled _ (List.mem_cons_of_mem _ List.mem_cons_self))).only.here
            rw [self] at here
            exact absurd (idle.symm.trans here) nofun
          · split
            · rintro next ⟨⟩ settled
              have live := live (settled _ (List.mem_cons_of_mem _ List.mem_cons_self))
              exact ⟨idle,decide_eq_true (keeps live),live⟩
            · rintro next ⟨⟩ settled
              have live := live (settled _ (List.mem_cons_of_mem _ List.mem_cons_self))
              exact ⟨idle,decide_eq_true (keeps live),live⟩

theorem enter_relies (request : Request) (once : Once s (.call request)) :
    ∀ next ∈ (enter request s).2, (∀ item ∈ next.items, Settled s item) → relies (enter request s).1 next := by
  cases request with
  | login =>
    unfold enter
    dsimp only
    split <;> exact nofun
  | auth => exact nofun
  | afk username fd busy onlyClean =>
    unfold enter
    dsimp only
    split
    · exact nofun
    · split
      · split
        · rintro next ⟨⟩ _
          trivial
        · intro next mem _
          obtain rfl := goAfk_next onlyClean next mem
          trivial
      · exact nofun
  | logout username =>
    intro next mem settled
    obtain ⟨waits,there,rfl⟩ := Option.map_eq_some_iff.mp mem
    change relies (logout s username false false).1 (.logout waits.1 waits.2)
    unfold logout at there ⊢
    cases session : s.agentNames.lookup username with
    | none =>
      rw [session] at there
      cases there
    | some held =>
      rw [session] at there
      dsimp only at there ⊢
      cases own : held.rid with
      | none =>
        rw [own] at there
        cases there
        refine ⟨?_,rfl⟩
        change (s.agentNames.lookup username).map Session.rid = some none
        rw [session,Option.map_some,own]
      | some rid =>
        rw [own] at there
        cases there
        have here : ridAt s username = some (some rid) := by rw [ridAt,session,Option.map_some,own]
        rcases settled (.role rid) (List.mem_cons_of_mem _ (List.mem_singleton_self _)) with ⟨holder,live⟩ | gone
        · obtain rfl := live.only.only username here
          exact ⟨⟨rfl,live.only,live.uid,live.handle⟩,rfl⟩
        · exact absurd here (gone.absent username)
  | onRolelogin username rid => exact onRolelogin_relies once

theorem keeps : KeepsItems enter resume Once Handler.items Settled relies := by
  refine ⟨fun s handler _ => resume_shrinks handler,fun s request once => enter_relies request once,?_,?_,fun s handler _ held => resume_relies held,?_,?_⟩
  · exact fun s request item _ settled _ => settled_beside settled (enter_beside request s) List.not_mem_nil
  · exact fun s request other _ held _ => relies_beside held (enter_beside request s) (fun _ mem => absurd mem List.not_mem_nil)
  · intro s handler _ item held before free
    by_cases own : item ∈ handler.items
    · exact resume_settled held own free
    · exact settled_beside (before.resolve_left own) (resume_beside held) own
  · exact fun s handler _ other held rely apart => relies_beside rely (resume_beside held) apart

-- The session tables of a uid, over any run in which sessions enter one role, once, and no
-- logout or onRolelogin begins while another is under way for its session or its role.
theorem tables_agree (path : Runs (Guarded (Interleaves enter resume) (fun service event => BeginsFree enter Handler.items service event ∧ Once service.shared event))
    ⟨initial,[]⟩ events service) (free : ∀ handler ∈ service.waiting, .role rid ∉ handler.items) :
    (∃ username, ridAt service.shared username = some (some rid) ∧ (∀ other, ridAt service.shared other = some (some rid) → other = username) ∧
      service.shared.agentUids.lookup rid = some username ∧ (service.shared.agentRidHandles.lookup rid).map RidHandle.username = some username ∧
      service.shared.loaded.lookup rid = some ()) ∨
    (∀ username, ridAt service.shared username ≠ some (some rid)) ∧ service.shared.agentUids.lookup rid = none ∧
      service.shared.agentRidHandles.lookup rid = none := by
  have start : HoldingItems Handler.items Settled relies ⟨initial,[]⟩ := by
    refine ⟨.nil,nofun,fun item _ => ?_⟩
    cases item with
    | session => trivial
    | role => exact .inr ⟨fun _ => nofun,rfl,rfl⟩
  obtain ⟨_,_,settled⟩ := keeps.run path start
  rcases settled (.role rid) free with ⟨username,live⟩ | gone
  · exact .inl ⟨username,live.only.here,live.only.only,live.uid,by rw [live.handle,Option.map_some],live.loaded⟩
  · exact .inr ⟨gone.absent,gone.uid,gone.handle⟩

-- The schedule of one session that logs in to role 7.
def arrive (username : Nat) : List (Choice Request Unit) :=
  [.call .login,.call (.auth username username),.call (.onRolelogin username 7)]

def settle (steps : Nat) : List (Choice Request Unit) := List.replicate steps (.resume 0 ())

theorem arrived_agrees : ∃ service : Service State Handler, service.waiting = [] ∧ ridAt service.shared 2 = some (some 7) ∧
    service.shared.agentUids.lookup 7 = some 2 := by
  have reached : ∃ events last, Runs (Guarded (Interleaves enter resume)
        (fun service event => BeginsFree enter Handler.items service event ∧ Once service.shared event)) ⟨initial,[]⟩ events last ∧
      last.waiting = [] ∧ ridAt last.shared 2 = some (some 7) :=
    playIn_reaches _ (arrive 1++settle 4++arrive 2++settle 9) _ _ (by decide)
  obtain ⟨_,service,path,idle,here⟩ := reached
  refine ⟨service,idle,here,?_⟩
  rcases tables_agree path (by rw [idle]; exact nofun) with ⟨username,_,only,uid,_⟩ | ⟨absent,_⟩
  · exact only 2 here ▸ uid
  · exact absurd here (absent 2)

-- A login during the logout of the session that has its role keeps a role that is then
-- unloaded and taken out of the uid's table. And a role that a session enters twice stays in
-- AgentMgr when it has left.
theorem tables_disagree :
    (∃ events service, Runs (Interleaves enter resume) ⟨initial,[]⟩ events service ∧ service.waiting = [] ∧ ridAt service.shared 2 = some (some 7) ∧
      service.shared.agentUids.lookup 7 = none ∧ service.shared.loaded.lookup 7 = none) ∧
    ∃ events service, Runs (Interleaves enter resume) ⟨initial,[]⟩ events service ∧ service.waiting = [] ∧ service.shared.agentNames.keys = [] ∧
      (service.shared.agentRidHandles.lookup 7).map RidHandle.username = some 1 :=
  ⟨play_unguarded (arrive 1++settle 4++[.call (.afk 1 1 false false),.resume 0 (),.call (.logout 1)]++arrive 2++settle 12) _ _ (by decide),
    play_unguarded (arrive 1++settle 4++[.call (.onRolelogin 1 7)]++settle 4++[.call (.logout 1)]++settle 4) _ _ (by decide)⟩

end steps

end OriginGame.AgentLogin
