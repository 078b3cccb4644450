import OriginGame.RallyMgr

namespace OriginGame.RallyMgr

section Departure
variable {order : Order Nat} {getRallyArmyMax : Nat → Nat} {s : State}

-- Joins, the timer and disbands. A join is finished before its team begins to depart or
-- to be taken apart.
def Punctual (s : State) : Event Request Task Answer → Prop
  | .call (.joinRallyTeam _) | .call (.dispatchRallyTimer _) | .call (.disbandRallyArmy _) => True
  | .call _ => False
  | .resume (.join _ (.march team _)) answer => answer.raises = false → answer.arrivalTime ≠ none →
    (s.history team).departing = false ∧ (s.history team).dissolving = false
  | .resume _ _ => True

structure TeamOk (info : RallyTeam) (past : History) : Prop where
  unset : past.departing = false → info.rallyObjectIndex = 0
  merged : info.rallyObjectIndex ≠ 0 → ∀ member, ∀ armyIndex ∈ info.rallyArmy.lookup member, past.merged.lookup member = some armyIndex
  accepted : ∀ member armyIndex, (member,armyIndex) ∈ past.accepted →
    info.rallyArmy.lookup member = some armyIndex ∨ (member,armyIndex) ∈ past.released
  disbanded : past.disbanded = true → past.dissolving = true ∧
    ∀ member armyIndex, (member,armyIndex) ∈ past.accepted → (member,armyIndex) ∈ past.released

structure Orderly (s : State) : Prop where
  known : ∀ guildId rid, ∀ team ∈ s.rallyTeamInfo.lookup (guildId,rid),
    team < s.made ∧ (s.history team).guildId = guildId ∧ (s.teams team).rallyRid = rid
  single : ∀ team < s.made, ∀ other < s.made, (s.history team).guildId = (s.history other).guildId →
    (s.teams team).rallyRid = (s.teams other).rallyRid → team = other
  registered : ∀ team < s.made, (s.history team).dissolving = false →
    s.rallyTeamInfo.lookup ((s.history team).guildId,(s.teams team).rallyRid) = some team
  teamOk : ∀ team < s.made, TeamOk (s.teams team) (s.history team)

def Registered (s : State) (team : Nat) : Prop :=
  s.rallyTeamInfo.lookup ((s.history team).guildId,(s.teams team).rallyRid) = some team

def Knows (s : State) (guildId rid team : Nat) : Prop :=
  team < s.made ∧ (s.history team).guildId = guildId ∧ (s.teams team).rallyRid = rid

def Released (s : State) (team : Nat) (seen : Nat → Prop) : Prop :=
  ∀ member, seen member → ∀ armyIndex ∈ (s.teams team).rallyArmy.lookup member, (member,armyIndex) ∈ (s.history team).released

def Only (s : State) (team member armyIndex : Nat) : Prop := ∀ found ∈ (s.teams team).rallyArmy.lookup member, found = armyIndex

def Merged (s : State) (team : Nat) (seen : Nat → Prop) (merged : Table Nat Nat) : Prop :=
  ∀ member, seen member → ∀ armyIndex ∈ (s.teams team).rallyArmy.lookup member, merged.lookup member = some armyIndex

def departureRelies (s : State) (ticket : Nat) : Task → Prop
  | .join _ .queued => True
  | .join call (.max team) | .join call (.march team _) => s.rallyLock.Inside call.rid ticket ∧ Knows s call.guildId call.rid team ∧
    (s.teams team).rallyArmy.lookup call.rallyRid = none
  | .join call (.count count _ _) => s.rallyLock.Inside call.rid ticket ∧ Knows s call.guildId call.rid count.team ∧
    (s.teams count.team).rallyArmy.lookup call.rallyRid = none
  | .join call (.announce team _) => s.rallyLock.Inside call.rid ticket ∧ Knows s call.guildId call.rid team
  | .disband call (.warn team _) => Knows s call.guildId call.rid team
  | .disband _ .exitBattle => True
  | .disband call (.refund team seen exitRid armyIndex) => Knows s call.guildId call.rid team ∧ (s.history team).dissolving = true ∧
    Released s team (· ∈ seen) ∧ Only s team exitRid armyIndex
  | .disband call (.leave team seen exitRid exitArmyIndex armyIndex) => Knows s call.guildId call.rid team ∧
    (s.history team).dissolving = true ∧ Released s team (fun member => member ∈ seen ∧ member ≠ exitRid) ∧
    Only s team exitRid exitArmyIndex ∧ Only s team exitRid armyIndex
  | .disband call (.notify team) | .disband call (.counter team _) => Knows s call.guildId call.rid team ∧
    (s.history team).dissolving = true ∧ Released s team (fun _ => True)
  | .visit call (.alone team) => Knows s call.guildId call.rallyRid team ∧ (s.history team).dissolving = true
  | .visit _ (.merge team seen merged member armyIndex) => team < s.made ∧ (s.history team).departing = true ∧
    Merged s team (· ∈ seen) merged ∧ Only s team member armyIndex
  | .visit _ (.enterMap team merged) => team < s.made ∧ (s.history team).departing = true ∧ Merged s team (fun _ => True) merged
  | .visit _ .sync => True
  | _ => False

-- What a step under one ticket leaves to the others: a team that is closed only loses
-- members, and an army goes in only where the team is registered and still here.
structure Steady (ticket : Nat) (s after : State) : Prop where
  made : after.made = s.made
  key : ∀ team < s.made, (after.history team).guildId = (s.history team).guildId ∧ (after.teams team).rallyRid = (s.teams team).rallyRid
  dissolving : ∀ team < s.made, (s.history team).dissolving = true → (after.history team).dissolving = true
  departing : ∀ team < s.made, (s.history team).departing = true → (after.history team).departing = true
  released : ∀ team < s.made, ∀ member ∈ (s.history team).released, member ∈ (after.history team).released
  grows : ∀ team < s.made, ∀ member, ∀ armyIndex ∈ (after.teams team).rallyArmy.lookup member,
    armyIndex ∈ (s.teams team).rallyArmy.lookup member ∨ s.rallyLock.Inside (s.teams team).rallyRid ticket ∧ Registered s team ∧
      (s.teams team).rallyObjectIndex = 0 ∧ (s.history team).departing = false ∧ (s.history team).dissolving = false
  queues : ∀ other key, other ≠ ticket → s.rallyLock.Inside key other → after.rallyLock.Inside key other

section Beside
variable {after : State} {ticket other team : Nat}

theorem Steady.knows (steady : Steady ticket s after) (knows : Knows s guildId rid team) : Knows after guildId rid team :=
  ⟨steady.made ▸ knows.1,(steady.key team knows.1).1.trans knows.2.1,(steady.key team knows.1).2.trans knows.2.2⟩

theorem Steady.low (steady : Steady ticket s after) (low : team < s.made) : team < after.made := steady.made ▸ low

theorem Steady.dissolved (steady : Steady ticket s after) (low : team < s.made) (going : (s.history team).dissolving = true)
    (there : armyIndex ∈ (after.teams team).rallyArmy.lookup member) : armyIndex ∈ (s.teams team).rallyArmy.lookup member := by
  rcases steady.grows team low member armyIndex there with old | ⟨_,_,_,_,still⟩
  · exact old
  · rw [going] at still
    cases still

theorem Steady.departed (steady : Steady ticket s after) (low : team < s.made) (going : (s.history team).departing = true)
    (there : armyIndex ∈ (after.teams team).rallyArmy.lookup member) : armyIndex ∈ (s.teams team).rallyArmy.lookup member := by
  rcases steady.grows team low member armyIndex there with old | ⟨_,_,_,still,_⟩
  · exact old
  · rw [going] at still
    cases still

theorem Steady.releases (steady : Steady ticket s after) (low : team < s.made) (going : (s.history team).dissolving = true)
    (released : Released s team seen) : Released after team seen :=
  fun member inside armyIndex there => steady.released team low _ (released member inside armyIndex (steady.dissolved low going there))

theorem Steady.only (steady : Steady ticket s after) (low : team < s.made) (going : (s.history team).dissolving = true)
    (only : Only s team member armyIndex) : Only after team member armyIndex :=
  fun found there => only found (steady.dissolved low going there)

theorem Steady.absent (steady : Steady ticket s after) (apart : other ≠ ticket) (inside : s.rallyLock.Inside rid other)
    (knows : Knows s guildId rid team) (free : (s.teams team).rallyArmy.lookup member = none) :
    (after.teams team).rallyArmy.lookup member = none := by
  rcases Option.eq_none_or_eq_some ((after.teams team).rallyArmy.lookup member) with still | ⟨armyIndex,found⟩
  · exact still
  · rcases steady.grows team knows.1 member armyIndex found with old | ⟨also,_⟩
    · rw [free] at old
      cases old
    · rw [knows.2.2] at also
      exact absurd (Queues.inside_unique inside also) apart

theorem Steady.beside (steady : Steady ticket s after) (apart : other ≠ ticket) (relied : departureRelies s other task) :
    departureRelies after other task := by
  have inside {key : Nat} := steady.queues other key apart
  cases task with
  | join call point =>
    cases point with
    | queued => trivial
    | max | march | count =>
      obtain ⟨held,knows,free⟩ := relied
      exact ⟨inside held,steady.knows knows,steady.absent apart held knows free⟩
    | announce => exact ⟨inside relied.1,steady.knows relied.2⟩
  | disband call point =>
    cases point with
    | warn => exact steady.knows relied
    | exitBattle => trivial
    | refund team seen exitRid armyIndex =>
      obtain ⟨knows,going,released,only⟩ := relied
      exact ⟨steady.knows knows,steady.dissolving team knows.1 going,steady.releases knows.1 going released,steady.only knows.1 going only⟩
    | leave team seen exitRid exitArmyIndex armyIndex =>
      obtain ⟨knows,going,released,only,also⟩ := relied
      exact ⟨steady.knows knows,steady.dissolving team knows.1 going,steady.releases knows.1 going released,
        steady.only knows.1 going only,steady.only knows.1 going also⟩
    | notify team | counter team _ =>
      obtain ⟨knows,going,released⟩ := relied
      exact ⟨steady.knows knows,steady.dissolving team knows.1 going,steady.releases knows.1 going released⟩
  | visit call point =>
    cases point with
    | alone team => exact ⟨steady.knows relied.1,steady.dissolving team relied.1.1 relied.2⟩
    | merge team seen merged member armyIndex =>
      obtain ⟨low,going,covers,only⟩ := relied
      exact ⟨steady.low low,steady.departing team low going,
        fun member inside armyIndex there => covers member inside armyIndex (steady.departed low going there),
        fun found there => only found (steady.departed low going there)⟩
    | enterMap team merged =>
      obtain ⟨low,going,covers⟩ := relied
      exact ⟨steady.low low,steady.departing team low going,
        fun member inside armyIndex there => covers member inside armyIndex (steady.departed low going there)⟩
    | sync => trivial
  | launch | reinforce | exit => exact relied.elim

end Beside

-- A step at one team.
structure Touches (team : Nat) (s after : State) : Prop where
  made : after.made = s.made
  table : after.rallyTeamInfo = s.rallyTeamInfo
  queues : after.rallyLock = s.rallyLock
  others : ∀ other, other ≠ team → after.teams other = s.teams other ∧ after.history other = s.history other
  key : (after.history team).guildId = (s.history team).guildId ∧ (after.teams team).rallyRid = (s.teams team).rallyRid
  dissolving : (s.history team).dissolving = true → (after.history team).dissolving = true
  departing : (s.history team).departing = true → (after.history team).departing = true
  released : ∀ member ∈ (s.history team).released, member ∈ (after.history team).released

theorem touches_both (s : State) (team : Nat) (change : RallyTeam → RallyTeam) (mark : History → History)
    (leader : (change (s.teams team)).rallyRid = (s.teams team).rallyRid) (guild : (mark (s.history team)).guildId = (s.history team).guildId)
    (dissolving : (s.history team).dissolving = true → (mark (s.history team)).dissolving = true)
    (departing : (s.history team).departing = true → (mark (s.history team)).departing = true)
    (released : ∀ member ∈ (s.history team).released, member ∈ (mark (s.history team)).released) :
    Touches team s ((s.modify team change).note team mark) where
  made := rfl
  table := rfl
  queues := rfl
  others other differs := ⟨State.modify_other s change differs,State.note_other (s.modify team change) mark differs⟩
  key := by
    rw [State.note_self]
    change _ ∧ ((s.modify team change).teams team).rallyRid = _
    rw [State.modify_self]
    exact ⟨guild,leader⟩
  dissolving := by
    rw [State.note_self]
    exact dissolving
  departing := by
    rw [State.note_self]
    exact departing
  released := by
    rw [State.note_self]
    exact released

theorem modify_alone (s : State) (team : Nat) (change : RallyTeam → RallyTeam) : (s.modify team change).note team id = s.modify team change := by
  unfold State.note State.modify
  rw [id,Function.update_eq_self]

theorem note_alone (s : State) (team : Nat) (mark : History → History) : (s.modify team id).note team mark = s.note team mark := by
  unfold State.note State.modify
  rw [id,Function.update_eq_self]

theorem Touches.orderly {after : State} (touches : Touches team s after) (orderly : Orderly s)
    (ok : TeamOk (after.teams team) (after.history team)) : Orderly after := by
  have key (other : Nat) : (after.history other).guildId = (s.history other).guildId ∧ (after.teams other).rallyRid = (s.teams other).rallyRid := by
    by_cases same : other = team
    · subst same
      exact touches.key
    · rw [(touches.others other same).1,(touches.others other same).2]
      exact ⟨rfl,rfl⟩
  refine ⟨?_,?_,?_,?_⟩
  · intro guildId rid found mem
    rw [touches.table] at mem
    obtain ⟨low,guild,leader⟩ := orderly.known guildId rid found mem
    exact ⟨touches.made ▸ low,(key found).1.trans guild,(key found).2.trans leader⟩
  · intro one low other below guild leader
    rw [touches.made] at low below
    rw [(key one).1,(key other).1] at guild
    rw [(key one).2,(key other).2] at leader
    exact orderly.single one low other below guild leader
  · intro other low still
    rw [touches.made] at low
    rw [touches.table,(key other).1,(key other).2]
    apply orderly.registered other low
    by_cases same : other = team
    · subst same
      rw [← Bool.not_eq_true] at still ⊢
      exact fun going => still (touches.dissolving going)
    · rwa [(touches.others other same).2] at still
  · intro other low
    by_cases same : other = team
    · subst same
      exact ok
    · rw [(touches.others other same).1,(touches.others other same).2]
      exact orderly.teamOk other (touches.made ▸ low)

theorem Touches.steady {after : State} (touches : Touches team s after) (ticket : Nat)
    (grows : ∀ member, ∀ armyIndex ∈ (after.teams team).rallyArmy.lookup member,
      armyIndex ∈ (s.teams team).rallyArmy.lookup member ∨ s.rallyLock.Inside (s.teams team).rallyRid ticket ∧ Registered s team ∧
        (s.teams team).rallyObjectIndex = 0 ∧ (s.history team).departing = false ∧ (s.history team).dissolving = false) :
    Steady ticket s after where
  made := touches.made
  key other _ := by
    by_cases same : other = team
    · subst same
      exact touches.key
    · rw [(touches.others other same).1,(touches.others other same).2]
      exact ⟨rfl,rfl⟩
  dissolving other _ := by
    by_cases same : other = team
    · subst same
      exact touches.dissolving
    · rw [(touches.others other same).2]
      exact id
  departing other _ := by
    by_cases same : other = team
    · subst same
      exact touches.departing
    · rw [(touches.others other same).2]
      exact id
  released other _ := by
    by_cases same : other = team
    · subst same
      exact touches.released
    · rw [(touches.others other same).2]
      exact fun _ mem => mem
  grows other _ member armyIndex mem := by
    by_cases same : other = team
    · subst same
      exact grows member armyIndex mem
    · rw [(touches.others other same).1] at mem
      exact .inl mem
  queues _ _ _ inside := touches.queues ▸ inside

theorem Steady.refl (ticket : Nat) (s : State) : Steady ticket s s where
  made := rfl
  key _ _ := ⟨rfl,rfl⟩
  dissolving _ _ := id
  departing _ _ := id
  released _ _ _ mem := mem
  grows _ _ _ _ mem := .inl mem
  queues _ _ _ inside := inside

theorem queues_steady (queues : Queues) (inside : ∀ other key, other ≠ ticket → s.rallyLock.Inside key other → queues.Inside key other) :
    Steady ticket s {s with rallyLock:=queues} where
  made := rfl
  key _ _ := ⟨rfl,rfl⟩
  dissolving _ _ := id
  departing _ _ := id
  released _ _ _ mem := mem
  grows _ _ _ _ mem := .inl mem
  queues := inside

theorem queues_orderly (orderly : Orderly s) (queues : Queues) : Orderly {s with rallyLock:=queues} :=
  ⟨orderly.known,orderly.single,orderly.registered,orderly.teamOk⟩

-- As with the capacity: the step, and what the handler relies on next.
structure Settles (ticket : Nat) (s : State) (outcome : Outcome) : Prop where
  steady : Steady ticket s outcome.1
  orderly : Orderly outcome.1
  next : ∀ task ∈ outcome.2, departureRelies outcome.1 ticket task

theorem settles_some (orderly : Orderly s) (relied : departureRelies s ticket task) : Settles ticket s (s,some task) := by
  refine ⟨.refl _ _,orderly,?_⟩
  intro other mem
  cases mem
  exact relied

theorem settles_none (orderly : Orderly s) : Settles ticket s (s,none) := ⟨.refl _ _,orderly,fun _ mem => by cases mem⟩

theorem settles_unlock (orderly : Orderly s) (inside : s.rallyLock.Inside key ticket) : Settles ticket s (s.unlock key,none) :=
  ⟨queues_steady _ (fun _ _ apart held => Queues.inside_unlock held inside apart),queues_orderly orderly _,fun _ mem => by cases mem⟩

theorem Steady.trans {middle after : State} (left : Steady ticket s middle) (right : Steady ticket middle after)
    (fewer : ∀ team member, ∀ armyIndex ∈ (after.teams team).rallyArmy.lookup member, armyIndex ∈ (middle.teams team).rallyArmy.lookup member) :
    Steady ticket s after where
  made := right.made.trans left.made
  key team low := ⟨(right.key team (left.low low)).1.trans (left.key team low).1,(right.key team (left.low low)).2.trans (left.key team low).2⟩
  dissolving team low going := right.dissolving team (left.low low) (left.dissolving team low going)
  departing team low going := right.departing team (left.low low) (left.departing team low going)
  released team low member mem := right.released team (left.low low) member (left.released team low member mem)
  grows team low member armyIndex mem := left.grows team low member armyIndex (fewer team member armyIndex mem)
  queues other key apart inside := right.queues other key apart (left.queues other key apart inside)

theorem Orderly.knows (orderly : Orderly s) (found : s.rallyTeamInfo.lookup (guildId,rid) = some team) : Knows s guildId rid team :=
  orderly.known guildId rid team found

theorem joinRally_settles (orderly : Orderly s) (inside : s.rallyLock.Inside call.rid ticket) : Settles ticket s (joinRally call s) := by
  unfold joinRally
  split
  · exact settles_unlock orderly inside
  · rename_i team found
    split
    · exact settles_unlock orderly inside
    · rename_i free
      exact settles_some orderly ⟨inside,orderly.knows found,Option.not_isSome_iff_eq_none.mp free⟩

theorem joinCounts_settles (orderly : Orderly s) (inside : s.rallyLock.Inside call.rid ticket)
    (knows : Knows s call.guildId call.rid count.team) (free : (s.teams count.team).rallyArmy.lookup call.rallyRid = none) :
    Settles ticket s (joinCounts order getRallyArmyMax call count s) := by
  unfold joinCounts
  split
  · exact settles_some orderly ⟨inside,knows,free⟩
  · split
    · exact settles_some orderly ⟨inside,knows,free⟩
    · exact settles_unlock orderly inside

theorem TeamOk.join (ok : TeamOk info past) (free : info.rallyArmy.lookup rallyRid = none) (here : past.departing = false)
    (whole : past.dissolving = false) :
    TeamOk (info.join rallyRid armyIndex arrivalTime objectIndex) (past.join rallyRid armyIndex) where
  unset := ok.unset
  merged away := absurd (ok.unset here) away
  accepted member found mem := by
    change (info.rallyArmy.insert rallyRid armyIndex).lookup member = some found ∨ (member,found) ∈ past.released
    rcases List.mem_cons.mp mem with same | old
    · cases same
      exact .inl (AList.lookup_insert _)
    · rcases ok.accepted member found old with listed | gone
      · by_cases same : member = rallyRid
        · subst same
          rw [free] at listed
          cases listed
        · rw [AList.lookup_insert_ne same]
          exact .inl listed
      · exact .inr gone
  disbanded ended := by
    have gone := (ok.disbanded ended).1
    rw [whole] at gone
    cases gone

theorem march_settles (orderly : Orderly s) (inside : s.rallyLock.Inside call.rid ticket) (knows : Knows s call.guildId call.rid team)
    (free : (s.teams team).rallyArmy.lookup call.rallyRid = none) (here : (s.history team).departing = false)
    (whole : (s.history team).dissolving = false) (armyIndex arrivalTime objectIndex : Nat) :
    Settles ticket s (admitJoin team call.rallyRid armyIndex arrivalTime objectIndex s,some (.join call (.announce team arrivalTime))) := by
  have ok := orderly.teamOk team knows.1
  have touches : Touches team s (admitJoin team call.rallyRid armyIndex arrivalTime objectIndex s) :=
    touches_both s team _ _ rfl rfl id id (fun _ mem => mem)
  have info : (admitJoin team call.rallyRid armyIndex arrivalTime objectIndex s).teams team =
    (s.teams team).join call.rallyRid armyIndex arrivalTime objectIndex := State.modify_self _ _ _
  have past : (admitJoin team call.rallyRid armyIndex arrivalTime objectIndex s).history team =
    (s.history team).join call.rallyRid armyIndex := State.note_self _ _ _
  have steady : Steady ticket s (admitJoin team call.rallyRid armyIndex arrivalTime objectIndex s) := by
    apply touches.steady ticket
    intro member found mem
    right
    rw [knows.2.2]
    exact ⟨inside,orderly.registered team knows.1 whole,ok.unset here,here,whole⟩
  refine ⟨steady,touches.orderly orderly ?_,?_⟩
  · rw [info,past]
    exact ok.join free here whole
  · intro task mem
    cases mem
    exact ⟨inside,steady.knows knows⟩

theorem join_settles (orderly : Orderly s) (relied : departureRelies s ticket (.join call point))
    (allowed : Punctual s (.resume (.join call point) answer)) :
    Settles ticket s (resumeJoin order getRallyArmyMax answer ticket call point s) := by
  cases point with
  | queued =>
    simp only [resumeJoin,wake]
    split
    · rename_i inside
      exact joinRally_settles orderly inside
    · exact settles_some orderly trivial
  | max team =>
    simp only [resumeJoin]
    split
    · exact settles_unlock orderly relied.1
    · exact joinCounts_settles orderly relied.1 relied.2.1 relied.2.2
  | count count member armyIndex =>
    simp only [resumeJoin]
    split
    · exact settles_unlock orderly relied.1
    · exact joinCounts_settles orderly relied.1 relied.2.1 relied.2.2
  | announce team arrivalTime =>
    simp only [resumeJoin]
    split
    · exact settles_unlock orderly relied.1
    · have ok := orderly.teamOk team relied.2.1
      have touches : Touches team s (s.modify team (fun info => {info with rallyWaitTime:=Nat.max info.rallyWaitTime arrivalTime})) := by
        rw [← modify_alone]
        exact touches_both s team _ id rfl rfl id id (fun _ mem => mem)
      have kept := touches.orderly orderly (by
        rw [State.modify_self]
        exact ⟨ok.unset,ok.merged,ok.accepted,ok.disbanded⟩)
      have steady := touches.steady ticket (by
        intro member found mem
        rw [State.modify_self] at mem
        exact .inl mem)
      have leaves := settles_unlock kept relied.1
      exact ⟨steady.trans leaves.steady (fun _ _ _ mem => mem),leaves.orderly,leaves.next⟩
  | march team before =>
    obtain ⟨inside,knows,free⟩ := relied
    -- createArmy changes none of the tables.
    obtain ⟨soldiers,creates⟩ : ∃ soldiers, joinCreates call answer s = {s with soldiers:=soldiers} := by
      unfold joinCreates
      split
      · exact ⟨_,rfl⟩
      · exact ⟨s.soldiers,rfl⟩
    have orderly' : Orderly {s with soldiers:=soldiers} := ⟨orderly.known,orderly.single,orderly.registered,orderly.teamOk⟩
    have back {outcome : Outcome} (settles : Settles ticket {s with soldiers:=soldiers} outcome) : Settles ticket s outcome :=
      ⟨⟨settles.steady.made,settles.steady.key,settles.steady.dissolving,settles.steady.departing,settles.steady.released,
        settles.steady.grows,settles.steady.queues⟩,settles.orderly,settles.next⟩
    simp only [resumeJoin,creates]
    split
    · rename_i armyIndex arrivalTime army arrival
      split
      · exact back (settles_unlock orderly' inside)
      · rename_i fine
        obtain ⟨here,whole⟩ := allowed (Bool.eq_false_iff.mpr fine) (by rw [arrival]; exact Option.some_ne_none _)
        exact back (march_settles orderly' inside knows free here whole armyIndex arrivalTime answer.objectIndex)
    · exact back (settles_unlock orderly' inside)

theorem exits_settle (orderly : Orderly s) (knows : Knows s call.guildId call.rid team) (going : (s.history team).dissolving = true)
    (released : Released s team (· ∈ seen)) : Settles ticket s (disbandExits order call team seen s) := by
  unfold disbandExits
  split
  · rename_i exitRid armyIndex next
    refine settles_some orderly ⟨knows,going,released,?_⟩
    intro found mem
    rw [nextMember_some next] at mem
    exact (Option.some.inj mem).symm
  · rename_i ended
    refine settles_some orderly ⟨knows,going,?_⟩
    intro member _ armyIndex mem
    exact released member (nextMember_none ended mem) armyIndex mem

theorem Settles.after {middle : State} (settles : Settles ticket middle outcome) (steady : Steady ticket s middle)
    (fewer : ∀ team member, ∀ armyIndex ∈ (outcome.1.teams team).rallyArmy.lookup member,
      armyIndex ∈ (middle.teams team).rallyArmy.lookup member) : Settles ticket s outcome :=
  ⟨steady.trans settles.steady fewer,settles.orderly,settles.next⟩

theorem exits_same (order : Order Nat) (call : Disband) (team : Nat) (seen : List Nat) (s : State) :
    (disbandExits order call team seen s).1 = s := by
  unfold disbandExits
  split
  · rfl
  · rfl

-- The loop goes on after a step at its team that leaves the members or takes one out.
theorem continue_settles {after : State} (orderly : Orderly s) (knows : Knows s call.guildId call.rid team) (touches : Touches team s after)
    (going : (after.history team).dissolving = true) (ok : TeamOk (after.teams team) (after.history team))
    (fewer : ∀ member, ∀ armyIndex ∈ (after.teams team).rallyArmy.lookup member, armyIndex ∈ (s.teams team).rallyArmy.lookup member)
    (released : Released after team (· ∈ seen)) : Settles ticket s (disbandExits order call team seen after) := by
  have steady : Steady ticket s after := touches.steady ticket (fun member armyIndex mem => .inl (fewer member armyIndex mem))
  have settles : Settles ticket after (disbandExits order call team seen after) :=
    exits_settle (touches.orderly orderly ok) (steady.knows knows) going released
  refine settles.after steady ?_
  rw [exits_same]
  exact fun _ _ _ mem => mem

theorem TeamOk.release (ok : TeamOk info past) (exitRid armyIndex : Nat) :
    TeamOk info {past with released:=(exitRid,armyIndex)::past.released} where
  unset := ok.unset
  merged := ok.merged
  accepted member found mem := (ok.accepted member found mem).imp id (List.mem_cons_of_mem _)
  disbanded ended := ⟨(ok.disbanded ended).1,fun member found mem => List.mem_cons_of_mem _ ((ok.disbanded ended).2 member found mem)⟩

theorem TeamOk.leave (ok : TeamOk info past) (only : ∀ found ∈ info.rallyArmy.lookup exitRid, found = armyIndex) :
    TeamOk (info.leave order exitRid) {past with released:=(exitRid,armyIndex)::past.released} where
  unset := ok.unset
  merged away member found mem := by
    change found ∈ (info.rallyArmy.erase exitRid).lookup member at mem
    obtain ⟨_,mem⟩ := Table.found_erase mem
    exact ok.merged away member found mem
  accepted member found mem := by
    change (info.rallyArmy.erase exitRid).lookup member = some found ∨ (member,found) ∈ (exitRid,armyIndex)::past.released
    rcases ok.accepted member found mem with listed | gone
    · by_cases same : member = exitRid
      · subst same
        rw [only found listed]
        exact .inr (List.mem_cons_self ..)
      · rw [AList.lookup_erase_ne same]
        exact .inl listed
    · exact .inr (List.mem_cons_of_mem _ gone)
  disbanded ended := ⟨(ok.disbanded ended).1,fun member found mem => List.mem_cons_of_mem _ ((ok.disbanded ended).2 member found mem)⟩

theorem release_touches (s : State) (team exitRid armyIndex : Nat) : Touches team s (release team exitRid armyIndex s) := by
  unfold release
  rw [← note_alone]
  exact touches_both s team id _ rfl rfl id id (fun _ mem => List.mem_cons_of_mem _ mem)

theorem leave_touches (s : State) (team exitRid armyIndex : Nat) : Touches team s (leaveTeam order team exitRid armyIndex s) := by
  unfold leaveTeam release
  exact touches_both s team _ _ rfl rfl id id (fun _ mem => List.mem_cons_of_mem _ mem)

theorem release_settles (orderly : Orderly s) (knows : Knows s call.guildId call.rid team) (going : (s.history team).dissolving = true)
    (released : Released s team (fun member => member ∈ seen ∧ member ≠ exitRid)) (only : Only s team exitRid armyIndex) :
    Settles ticket s (disbandExits order call team seen (release team exitRid armyIndex s)) := by
  refine continue_settles orderly knows (release_touches s team exitRid armyIndex) ?_ ?_ (fun _ _ mem => mem) ?_
  · rw [release,State.note_self]
    exact going
  · rw [release,State.note_self]
    exact (orderly.teamOk team knows.1).release exitRid armyIndex
  · intro member inside found mem
    rw [release,State.note_self]
    by_cases same : member = exitRid
    · subst same
      rw [only found mem]
      exact List.mem_cons_self ..
    · exact List.mem_cons_of_mem _ (released member ⟨inside,same⟩ found mem)

theorem leave_settles (orderly : Orderly s) (knows : Knows s call.guildId call.rid team) (going : (s.history team).dissolving = true)
    (released : Released s team (fun member => member ∈ seen ∧ member ≠ exitRid)) (only : Only s team exitRid armyIndex) :
    Settles ticket s (disbandExits order call team seen (leaveTeam order team exitRid armyIndex s)) := by
  have info : (leaveTeam order team exitRid armyIndex s).teams team = (s.teams team).leave order exitRid := State.modify_self _ _ _
  have past : (leaveTeam order team exitRid armyIndex s).history team =
    {s.history team with released:=(exitRid,armyIndex)::(s.history team).released} := by
    rw [leaveTeam,release,State.note_self,State.modify_history]
  have fewer (member found : Nat) (mem : found ∈ ((leaveTeam order team exitRid armyIndex s).teams team).rallyArmy.lookup member) :
      member ≠ exitRid ∧ found ∈ (s.teams team).rallyArmy.lookup member := by
    rw [info] at mem
    change found ∈ ((s.teams team).rallyArmy.erase exitRid).lookup member at mem
    exact Table.found_erase mem
  refine continue_settles orderly knows (leave_touches s team exitRid armyIndex) ?_ ?_ (fun member found mem => (fewer member found mem).2) ?_
  · rw [past]
    exact going
  · rw [info,past]
    exact (orderly.teamOk team knows.1).leave only
  · intro member inside found mem
    rw [past]
    obtain ⟨differs,there⟩ := fewer member found mem
    exact List.mem_cons_of_mem _ (released member ⟨inside,differs⟩ found there)

theorem clear_orderly (orderly : Orderly s) (knows : Knows s guildId rid team) (going : (s.history team).dissolving = true) :
    Orderly (s.clear guildId rid) := by
  refine ⟨?_,orderly.single,?_,orderly.teamOk⟩
  · intro guild leader found mem
    change found ∈ (s.rallyTeamInfo.erase (guildId,rid)).lookup (guild,leader) at mem
    by_cases same : (guild,leader) = (guildId,rid)
    · rw [same,AList.lookup_erase] at mem
      cases mem
    · rw [AList.lookup_erase_ne same] at mem
      exact orderly.known guild leader found mem
  · intro other low whole
    change (s.rallyTeamInfo.erase (guildId,rid)).lookup ((s.history other).guildId,(s.teams other).rallyRid) = some other
    have differs : ((s.history other).guildId,(s.teams other).rallyRid) ≠ (guildId,rid) := by
      intro clash
      obtain ⟨guild,leader⟩ := Prod.mk.inj clash
      have same := orderly.single other low team knows.1 (guild.trans knows.2.1.symm) (leader.trans knows.2.2.symm)
      subst same
      rw [show (s.history other).dissolving = false from whole] at going
      cases going
    rw [AList.lookup_erase_ne differs]
    exact orderly.registered other low whole

theorem clear_steady (guildId rid : Nat) : Steady ticket s (s.clear guildId rid) where
  made := rfl
  key _ _ := ⟨rfl,rfl⟩
  dissolving _ _ := id
  departing _ _ := id
  released _ _ _ mem := mem
  grows _ _ _ _ mem := .inl mem
  queues _ _ _ inside := inside

theorem ended_settles {call : Disband} (orderly : Orderly s) (knows : Knows s call.guildId call.rid team) (going : (s.history team).dissolving = true)
    (released : Released s team (fun _ => True)) :
    Settles ticket s ((s.clear call.guildId call.rid).note team (fun past => {past with disbanded:=true}),none) := by
  have ok := orderly.teamOk team knows.1
  have touches : Touches team (s.clear call.guildId call.rid)
      ((s.clear call.guildId call.rid).note team (fun past => {past with disbanded:=true})) := by
    rw [← note_alone]
    exact touches_both _ team id _ rfl rfl id id (fun _ mem => mem)
  have steady := touches.steady ticket (fun _ _ mem => .inl mem)
  refine ⟨(clear_steady _ _).trans steady (fun _ _ _ mem => mem),touches.orderly (clear_orderly orderly knows going) ?_,
    fun _ mem => by cases mem⟩
  rw [State.note_self]
  refine ⟨ok.unset,ok.merged,ok.accepted,fun _ => ⟨going,?_⟩⟩
  intro member armyIndex mem
  rcases ok.accepted member armyIndex mem with listed | gone
  · exact released member trivial armyIndex listed
  · exact gone

theorem counters_settle (orderly : Orderly s) (knows : Knows s call.guildId call.rid team) (going : (s.history team).dissolving = true)
    (released : Released s team (fun _ => True)) (targets : List Nat) : Settles ticket s (disbandCounters call team targets s) := by
  induction targets with
  | nil => exact ended_settles orderly knows going released
  | cons target targets ih =>
    unfold disbandCounters
    split
    · exact settles_none orderly
    · split
      · exact settles_some orderly ⟨knows,going,released⟩
      · exact ih

theorem disband_settles (orderly : Orderly s) (relied : departureRelies s ticket (.disband call point)) :
    Settles ticket s (resumeDisband order answer call point s) := by
  cases point with
  | warn team rallyObjectIndex =>
    simp only [resumeDisband]
    split
    · exact settles_none orderly
    · split
      · exact settles_some orderly trivial
      · have ok := orderly.teamOk team relied.1
        have touches : Touches team s (s.note team (fun past => {past with dissolving:=true})) := by
          rw [← note_alone]
          exact touches_both s team id _ rfl rfl (fun _ => rfl) id (fun _ mem => mem)
        refine continue_settles orderly relied touches ?_ ?_ (fun _ _ mem => mem) (fun _ mem => by cases mem)
        · rw [State.note_self]
        · rw [State.note_self]
          exact ⟨ok.unset,ok.merged,ok.accepted,fun ended => ⟨rfl,(ok.disbanded ended).2⟩⟩
  | exitBattle => exact settles_none orderly
  | refund team seen exitRid armyIndex =>
    obtain ⟨knows,going,released,only⟩ := relied
    have others : Released s team (fun member => member ∈ exitRid::seen ∧ member ≠ exitRid) :=
      fun member inside => released member (List.mem_of_ne_of_mem inside.2 inside.1)
    simp only [resumeDisband]
    split
    · exact release_settles orderly knows going others only
    · split
      · rename_i listed there
        refine settles_some orderly ⟨knows,going,others,only,?_⟩
        intro found mem
        rw [there] at mem
        exact (Option.some.inj mem).symm
      · rename_i gone
        apply exits_settle orderly knows going
        intro member inside found mem
        refine others member ⟨inside,?_⟩ found mem
        rintro rfl
        rw [gone] at mem
        cases mem
  | leave team seen exitRid exitArmyIndex armyIndex =>
    obtain ⟨knows,going,released,only,also⟩ := relied
    simp only [resumeDisband]
    split
    · exact release_settles orderly knows going released only
    · exact leave_settles orderly knows going released also
  | notify team =>
    obtain ⟨knows,going,released⟩ := relied
    simp only [resumeDisband]
    split
    · exact settles_none orderly
    · exact counters_settle orderly knows going released _
  | counter team targets =>
    obtain ⟨knows,going,released⟩ := relied
    simp only [resumeDisband]
    split
    · exact settles_none orderly
    · exact counters_settle orderly knows going released _

theorem merge_settles (orderly : Orderly s) (low : team < s.made) (going : (s.history team).departing = true)
    (covers : Merged s team (· ∈ seen) merged) : Settles ticket s (mergeNext order call team seen merged s) := by
  unfold mergeNext
  split
  · rename_i member armyIndex next
    refine settles_some orderly ⟨low,going,covers,?_⟩
    intro found mem
    rw [nextMember_some next] at mem
    exact (Option.some.inj mem).symm
  · rename_i ended
    refine settles_some orderly ⟨low,going,?_⟩
    intro member _ armyIndex mem
    exact covers member (nextMember_none ended mem) armyIndex mem

theorem visit_settles (orderly : Orderly s) (call : Visit) : Settles ticket s (visitTeam order call s) := by
  unfold visitTeam
  split
  · exact settles_none orderly
  · rename_i team found
    have knows := orderly.knows found
    have ok := orderly.teamOk team knows.1
    split
    · split
      · have touches : Touches team s (s.note team (fun past => {past with dissolving:=true})) := by
          rw [← note_alone]
          exact touches_both s team id _ rfl rfl (fun _ => rfl) id (fun _ mem => mem)
        have steady := touches.steady ticket (fun _ _ mem => .inl mem)
        refine ⟨steady,touches.orderly orderly ?_,?_⟩
        · rw [State.note_self]
          exact ⟨ok.unset,ok.merged,ok.accepted,fun ended => ⟨rfl,(ok.disbanded ended).2⟩⟩
        · intro task mem
          cases mem
          refine ⟨steady.knows knows,?_⟩
          rw [State.note_self]
      · have touches : Touches team s (s.note team (fun past => {past with departing:=true})) := by
          rw [← note_alone]
          exact touches_both s team id _ rfl rfl id (fun _ => rfl) (fun _ mem => mem)
        have steady := touches.steady ticket (fun _ _ mem => .inl mem)
        have kept := touches.orderly orderly (by
          rw [State.note_self]
          exact ⟨fun here => (Bool.noConfusion here),ok.merged,ok.accepted,ok.disbanded⟩)
        have settles : Settles ticket _ (mergeNext order call team [] ∅ (s.note team (fun past => {past with departing:=true}))) :=
          merge_settles kept (steady.low knows.1) (by rw [State.note_self]) (fun _ mem => by cases mem)
        refine settles.after steady ?_
        have same : (mergeNext order call team [] ∅ (s.note team (fun past => {past with departing:=true}))).1 =
            s.note team (fun past => {past with departing:=true}) := by
          unfold mergeNext
          split
          · rfl
          · rfl
        rw [same]
        exact fun _ _ _ mem => mem
    · exact settles_none orderly

theorem resumeVisit_settles (orderly : Orderly s) (relied : departureRelies s ticket (.visit call point)) :
    Settles ticket s (resumeVisit order answer call point s) := by
  unfold resumeVisit
  split
  · exact settles_none orderly
  · cases point with
    | alone team => exact ⟨clear_steady _ _,clear_orderly orderly relied.1 relied.2,fun _ mem => by cases mem⟩
    | merge team seen merged member armyIndex =>
      obtain ⟨low,going,covers,only⟩ := relied
      refine merge_settles orderly low going ?_
      intro other inside found mem
      by_cases same : other = member
      · subst same
        rw [AList.lookup_insert,only found mem]
      · rw [AList.lookup_insert_ne same]
        exact covers other (List.mem_of_ne_of_mem same inside) found mem
    | enterMap team merged =>
      obtain ⟨low,going,covers⟩ := relied
      have ok := orderly.teamOk team low
      dsimp only
      split
      · exact settles_some orderly trivial
      · rename_i arrivalTime arrival
        have touches := touches_both s team (fun info => {info with rallyMarchTime:=arrivalTime, rallyObjectIndex:=answer.objectIndex})
          (fun past => {past with merged:=merged}) rfl rfl id id (fun _ mem => mem)
        refine ⟨touches.steady ticket ?_,touches.orderly orderly ?_,?_⟩
        · intro member found mem
          rw [State.note_teams,State.modify_self] at mem
          exact .inl mem
        · rw [State.note_self,State.note_teams,State.modify_self]
          refine ⟨?_,fun _ => fun member found mem => covers member trivial found mem,ok.accepted,ok.disbanded⟩
          intro here
          change (s.history team).departing = false at here
          rw [going] at here
          cases here
        · intro task mem
          cases mem
          trivial
    | sync => exact settles_none orderly

theorem enter_settles (orderly : Orderly s) (allowed : Punctual s (.call request)) : Settles ticket s (enter order request ticket s) := by
  cases request with
  | joinRallyTeam call =>
    have locks : Steady ticket s (s.lock call.rid ticket) := queues_steady _ (fun _ _ _ inside => Queues.inside_lock inside _ _)
    have locked : Orderly (s.lock call.rid ticket) := queues_orderly orderly _
    simp only [enter,wake]
    split
    · rename_i inside
      refine (joinRally_settles locked inside).after locks ?_
      unfold joinRally
      repeat' split
      all_goals exact fun _ _ _ mem => mem
    · have waits : Settles ticket (s.lock call.rid ticket) (s.lock call.rid ticket,some (.join call .queued)) := settles_some locked trivial
      exact waits.after locks (fun _ _ _ mem => mem)
  | dispatchRallyTimer call => exact visit_settles orderly call
  | disbandRallyArmy call =>
    simp only [enter,disbandRallyArmy]
    split
    · exact settles_none orderly
    · rename_i team found
      exact settles_some orderly (orderly.knows found)
  | newRallyTeam | reinforceArrivalCallback | exitRallyTeam | armyLoses => exact allowed.elim

theorem resume_settles (orderly : Orderly s) (relied : departureRelies s ticket task) (allowed : Punctual s (.resume task answer)) :
    Settles ticket s (resume order getRallyArmyMax answer ticket task s) := by
  cases task with
  | join call point => exact join_settles orderly relied allowed
  | disband call point => exact disband_settles orderly relied
  | visit call point => exact resumeVisit_settles orderly relied
  | launch | reinforce | exit => exact relied.elim

theorem departure_kept : KeepsApart (enter order) (resume order getRallyArmyMax) Punctual Orderly departureRelies where
  entered _ _ _ orderly allowed := ⟨(enter_settles orderly allowed).orderly,(enter_settles orderly allowed).next⟩
  resumed _ _ _ _ orderly relied allowed := ⟨(resume_settles orderly relied allowed).orderly,(resume_settles orderly relied allowed).next⟩
  beside_entered _ _ _ _ _ orderly allowed relied apart := (enter_settles orderly allowed).steady.beside apart relied
  beside_resumed _ _ _ _ _ _ orderly relied allowed beside apart := (resume_settles orderly relied allowed).steady.beside apart beside

-- An army goes in only while the team is registered and not departed; who is in a team
-- that has departed was merged; who was accepted into a team that is disbanded was released.
theorem no_late_join {start last : Service (Ticketed State) (Numbered Task)}
    (path : Runs (Guarded (Acts order getRallyArmyMax) (Allowed (numbered Punctual))) start events last)
    (idle : start.waiting = []) (begins : Orderly start.shared.state) :
    (∀ event after, Guarded (Acts order getRallyArmyMax) (Allowed (numbered Punctual)) last event after →
      ∀ team < last.shared.state.made, ∀ member, ∀ armyIndex ∈ (after.shared.state.teams team).rallyArmy.lookup member,
        armyIndex ∉ (last.shared.state.teams team).rallyArmy.lookup member →
        Registered last.shared.state team ∧ (last.shared.state.teams team).rallyObjectIndex = 0) ∧
    (∀ team < last.shared.state.made, (last.shared.state.teams team).rallyObjectIndex ≠ 0 →
      ∀ member, ∀ armyIndex ∈ (last.shared.state.teams team).rallyArmy.lookup member,
        (last.shared.state.history team).merged.lookup member = some armyIndex) ∧
    (∀ team < last.shared.state.made, (last.shared.state.history team).disbanded = true →
      ∀ member armyIndex, (member,armyIndex) ∈ (last.shared.state.history team).accepted →
        (member,armyIndex) ∈ (last.shared.state.history team).released) := by
  obtain ⟨orderly,relied⟩ := departure_kept.run path idle begins
  refine ⟨?_,fun team low => (orderly.teamOk team low).merged,fun team low ended => ((orderly.teamOk team low).disbanded ended).2⟩
  intro event after acts team low member armyIndex mem fresh
  have found {ticket : Nat} (steady : Steady ticket last.shared.state after.shared.state) :
      Registered last.shared.state team ∧ (last.shared.state.teams team).rallyObjectIndex = 0 := by
    rcases steady.grows team low member armyIndex mem with old | ⟨_,registered,here,_⟩
    · exact absurd old fresh
    · exact ⟨registered,here⟩
  obtain ⟨step,allowed⟩ := acts
  cases step with
  | call => exact found (enter_settles orderly allowed).steady
  | @resume s earlier handler later answer => exact found (resume_settles orderly (relied handler (by simp)) allowed).steady

instance (s : State) : (event : Event Request Task Answer) → Decidable (Punctual s event)
  | .call (.joinRallyTeam _) | .call (.dispatchRallyTimer _) | .call (.disbandRallyArmy _) => isTrue trivial
  | .call (.newRallyTeam _) | .call (.reinforceArrivalCallback _) | .call (.exitRallyTeam _) | .call (.armyLoses _ _ _) => isFalse id
  | .resume (.join _ (.march team _)) answer => inferInstanceAs (Decidable (answer.raises = false → answer.arrivalTime ≠ none →
      (s.history team).departing = false ∧ (s.history team).dissolving = false))
  | .resume (.join _ .queued) _ | .resume (.join _ (.max _)) _ | .resume (.join _ (.count _ _ _)) _ | .resume (.join _ (.announce _ _)) _ =>
    isTrue trivial
  | .resume (.launch _ _) _ | .resume (.reinforce _ _) _ | .resume (.disband _ _) _ | .resume (.exit _ _) _ | .resume (.visit _ _) _ =>
    isTrue trivial

end Departure

-- The leader 7 and the member 5, who leave at 60.
def mustered : Service (Ticketed State) (Numbered Task) := ⟨⟨0,{State.empty with
  teams:=fun _ => ⟨7,10,60,60,0,0,AList.insert 5 1 (AList.insert 7 1 ∅),∅,∅⟩,
  history:=fun _ => ⟨4,1,0,0,[],[],∅,false,false,false⟩,
  made:=1,
  rallyTeamInfo:=AList.insert (4,7) 0 ∅}⟩,[]⟩

def marched : Answer := ⟨false,false,4,some 3,some 80,0,99,[]⟩

-- The team departs while the join of 6 is on its way: 6 is listed and was not merged.
theorem join_misses_departure : ∃ events last, Runs (Acts .stored (fun _ => 100)) mustered events last ∧ last.waiting = [] ∧
    (last.shared.state.teams 0).rallyObjectIndex = 99 ∧ (last.shared.state.teams 0).rallyArmy.lookup 6 = some 3 ∧
    (last.shared.state.history 0).merged.lookup 6 = none := by
  apply play_unguarded [.call (.joinRallyTeam ⟨4,7,6,none,10⟩),.resume 0 marched,.resume 0 marched,.resume 0 marched,
    .call (.dispatchRallyTimer ⟨4,7,60⟩),.resume 0 marched,.resume 0 marched,.resume 0 marched,.resume 0 marched,
    .resume 0 marched,.resume 0 marched] mustered
  decide

-- The join of 6 is in time, the team departs with it and is disbanded.
theorem join_in_time : ∃ events last, Runs (Guarded (Acts .stored (fun _ => 100)) (Allowed (numbered Punctual))) mustered events last ∧
    (last.waiting = [] ∧ last.shared.state.made = 1 ∧ (last.shared.state.history 0).disbanded = true ∧
      (6,3) ∈ (last.shared.state.history 0).accepted) ∧ (6,3) ∈ (last.shared.state.history 0).released := by
  have played : ∃ events last, Runs (Guarded (Acts .stored (fun _ => 100)) (Allowed (numbered Punctual))) mustered events last ∧
      last.waiting = [] ∧ last.shared.state.made = 1 ∧ (last.shared.state.history 0).disbanded = true ∧
      (6,3) ∈ (last.shared.state.history 0).accepted := by
    apply play_reaches (fun s event => decide (numbered Punctual s event)) (fun _ _ passed => of_decide_eq_true passed)
      [.call (.joinRallyTeam ⟨4,7,6,none,10⟩),.resume 0 marched,.resume 0 marched,.resume 0 marched,.resume 0 marched,.resume 0 marched,
        .call (.dispatchRallyTimer ⟨4,7,90⟩),.resume 0 marched,.resume 0 marched,.resume 0 marched,.resume 0 marched,.resume 0 marched,
        .call (.disbandRallyArmy ⟨4,7,false⟩),.resume 0 marched,.resume 0 marched,.resume 0 marched,.resume 0 marched,.resume 0 marched,
        .resume 0 marched,.resume 0 marched,.resume 0 marched] mustered
    decide
  obtain ⟨events,last,path,reached⟩ := played
  have begins : Orderly mustered.shared.state := by
    refine ⟨?_,?_,?_,?_⟩
    · intro guildId rid team mem
      obtain ⟨same,rfl⟩ := Table.lookup_only mem
      cases same
      decide
    · intro team low other below _ _
      exact (Nat.lt_one_iff.mp low).trans (Nat.lt_one_iff.mp below).symm
    · intro team low _
      rw [Nat.lt_one_iff.mp low]
      decide
    · intro team _
      refine ⟨fun _ => rfl,fun away => absurd rfl away,?_,?_⟩
      · intro _ _ mem
        cases mem
      · intro ended
        cases ended
  have low : 0 < last.shared.state.made := by
    rw [reached.2.1]
    exact Nat.zero_lt_one
  exact ⟨events,last,path,reached,(no_late_join path rfl begins).2.2 0 low reached.2.2.1 6 3 reached.2.2.2⟩

end OriginGame.RallyMgr
