import OriginGame.RallyMgr

namespace OriginGame.RallyMgr

section Launching
variable {order : Order Nat} {getRallyArmyMax : Nat → Nat} {s : State}

def State.alive (s : State) (team : Nat) : Prop := team < s.made ∧ (s.history team).dissolving = false

instance (s : State) (team : Nat) : Decidable (s.alive team) :=
  inferInstanceAs (Decidable (team < s.made ∧ (s.history team).dissolving = false))

-- newRallyTeam and disbandRallyArmy. A leader who has a team by now wanted the same
-- target, and a disband ends while its own team, or none, is registered.
def Untouched (s : State) : Event Request Task Answer → Prop
  | .call (.newRallyTeam _) | .call (.disbandRallyArmy _) => True
  | .call _ => False
  | .resume (.launch call .army) answer => answer.raises = false → answer.armyIndex ≠ none →
    ∀ team ∈ s.rallyTeamInfo.lookup (call.guildId,call.rid), (s.teams team).rallyTargetIndex = call.targetIndex
  | .resume (.disband call (.notify team)) _ | .resume (.disband call (.counter team _)) _ =>
    ∀ registered ∈ s.rallyTeamInfo.lookup (call.guildId,call.rid), registered = team
  | .resume _ _ => True

structure Launched (s : State) : Prop where
  known : ∀ guildId rid, ∀ team ∈ s.rallyTeamInfo.lookup (guildId,rid),
    team < s.made ∧ (s.history team).guildId = guildId ∧ (s.teams team).rallyRid = rid
  registered : ∀ team, s.alive team → s.rallyTeamInfo.lookup ((s.history team).guildId,(s.teams team).rallyRid) = some team
  listed : ∀ team, s.alive team → (s.teams team).rallyArmy.lookup (s.teams team).rallyRid = some (s.history team).armyIndex

-- The team a disband has captured.
def Captured (s : State) (call : Disband) (team : Nat) : Prop :=
  team < s.made ∧ (s.history team).guildId = call.guildId ∧ (s.teams team).rallyRid = call.rid

def Dissolving (s : State) (call : Disband) (team : Nat) : Prop := Captured s call team ∧ (s.history team).dissolving = true

def Elsewhere (s : State) (call : Launch) : Prop :=
  ∀ team ∈ s.rallyTeamInfo.lookup (call.guildId,call.rid), (s.teams team).rallyTargetIndex ≠ call.targetIndex

def launchRelies (s : State) (ticket : Nat) : Task → Prop
  | .launch _ .queued => True
  | .launch call .sameGuild | .launch call .army => s.rallyLock.Inside call.targetIndex ticket ∧ Elsewhere s call
  | .launch call .announce => s.rallyLock.Inside call.targetIndex ticket
  | .disband call (.warn team _) => Captured s call team
  | .disband _ .exitBattle => True
  | .disband call (.refund team _ _ _) | .disband call (.leave team _ _ _ _) | .disband call (.notify team)
  | .disband call (.counter team _) => Dissolving s call team
  | _ => False

-- What no step of these handlers takes back.
structure Grows (s after : State) : Prop where
  made : s.made ≤ after.made
  teams : ∀ team < s.made, (after.teams team).rallyRid = (s.teams team).rallyRid ∧
    (after.teams team).rallyTargetIndex = (s.teams team).rallyTargetIndex
  past : ∀ team < s.made, (after.history team).guildId = (s.history team).guildId ∧
    (after.history team).armyIndex = (s.history team).armyIndex ∧
    ((s.history team).dissolving = true → (after.history team).dissolving = true)

theorem Grows.refl (s : State) : Grows s s := ⟨le_refl _,fun _ _ => ⟨rfl,rfl⟩,fun _ _ => ⟨rfl,rfl,id⟩⟩

theorem Grows.captured {after : State} (grows : Grows s after) (captured : Captured s call team) : Captured after call team := by
  obtain ⟨low,guild,rid⟩ := captured
  exact ⟨Nat.lt_of_lt_of_le low grows.made,(grows.past team low).1.trans guild,(grows.teams team low).1.trans rid⟩

theorem Grows.dissolving {after : State} (grows : Grows s after) (going : Dissolving s call team) : Dissolving after call team :=
  ⟨grows.captured going.1,(grows.past team going.1.1).2.2 going.2⟩

-- A step at a team that is taken apart, or at the table of teams no longer listed.
structure TakesApart (team : Nat) (s after : State) : Prop extends Grows s after where
  made_same : after.made = s.made
  others : ∀ other, other ≠ team → after.teams other = s.teams other ∧ after.history other = s.history other
  gone : team < s.made → (after.history team).dissolving = true
  table : ∀ key, ∀ found ∈ after.rallyTeamInfo.lookup key, found ∈ s.rallyTeamInfo.lookup key
  stays : ∀ key, ∀ found ∈ s.rallyTeamInfo.lookup key, found ≠ team → found ∈ after.rallyTeamInfo.lookup key
  queues : after.rallyLock = s.rallyLock

theorem TakesApart.launched {after : State} (apart : TakesApart team s after) (launched : Launched s) (low : team < s.made) : Launched after := by
  have alive (other : Nat) (lives : after.alive other) : other ≠ team ∧ s.alive other := by
    have differs : other ≠ team := by
      rintro rfl
      have gone := apart.gone low
      rw [lives.2] at gone
      cases gone
    refine ⟨differs,apart.made_same ▸ lives.1,?_⟩
    rw [← (apart.others other differs).2]
    exact lives.2
  refine ⟨?_,?_,?_⟩
  · intro guildId rid found mem
    obtain ⟨below,guild,leader⟩ := launched.known guildId rid found (apart.table _ found mem)
    exact ⟨Nat.lt_of_lt_of_le below apart.made,(apart.past found below).1.trans guild,(apart.teams found below).1.trans leader⟩
  · intro other lives
    obtain ⟨differs,before⟩ := alive other lives
    rw [(apart.others other differs).1,(apart.others other differs).2]
    exact apart.stays _ other (launched.registered other before) differs
  · intro other lives
    obtain ⟨differs,before⟩ := alive other lives
    rw [(apart.others other differs).1,(apart.others other differs).2]
    exact launched.listed other before

theorem Grows.trans {middle after : State} (left : Grows s middle) (right : Grows middle after) : Grows s after := by
  refine ⟨le_trans left.made right.made,?_,?_⟩
  · intro team low
    have still := Nat.lt_of_lt_of_le low left.made
    exact ⟨(right.teams team still).1.trans (left.teams team low).1,(right.teams team still).2.trans (left.teams team low).2⟩
  · intro team low
    have still := Nat.lt_of_lt_of_le low left.made
    obtain ⟨guild,army,going⟩ := right.past team still
    obtain ⟨guild',army',going'⟩ := left.past team low
    exact ⟨guild.trans guild',army.trans army',fun gone => going (going' gone)⟩

theorem TakesApart.trans {middle after : State} (left : TakesApart team s middle) (right : TakesApart team middle after) :
    TakesApart team s after where
  toGrows := left.toGrows.trans right.toGrows
  made_same := right.made_same.trans left.made_same
  others other differs := ⟨(right.others other differs).1.trans (left.others other differs).1,
    (right.others other differs).2.trans (left.others other differs).2⟩
  gone low := right.gone (left.made_same ▸ low)
  table key found mem := left.table key found (right.table key found mem)
  stays key found mem differs := right.stays key found (left.stays key found mem differs) differs
  queues := right.queues.trans left.queues

theorem note_apart (guild : (change (s.history team)).guildId = (s.history team).guildId)
    (army : (change (s.history team)).armyIndex = (s.history team).armyIndex)
    (gone : (change (s.history team)).dissolving = true) : TakesApart team s (s.note team change) where
  made := le_refl _
  teams _ _ := ⟨rfl,rfl⟩
  past other _ := by
    by_cases same : other = team
    · subst same
      rw [State.note_self]
      exact ⟨guild,army,fun _ => gone⟩
    · rw [State.note_other _ _ same]
      exact ⟨rfl,rfl,id⟩
  made_same := rfl
  others other differs := ⟨rfl,Function.update_of_ne differs _ _⟩
  gone _ := by
    rw [State.note_self]
    exact gone
  table _ _ mem := mem
  stays _ _ mem _ := mem
  queues := rfl

theorem modify_apart (gone : (s.history team).dissolving = true) (rid : (change (s.teams team)).rallyRid = (s.teams team).rallyRid)
    (target : (change (s.teams team)).rallyTargetIndex = (s.teams team).rallyTargetIndex) : TakesApart team s (s.modify team change) where
  made := le_refl _
  teams other _ := by
    by_cases same : other = team
    · subst same
      rw [State.modify_self]
      exact ⟨rid,target⟩
    · rw [State.modify_other _ _ same]
      exact ⟨rfl,rfl⟩
  past _ _ := ⟨rfl,rfl,id⟩
  made_same := rfl
  others other differs := ⟨Function.update_of_ne differs _ _,rfl⟩
  gone _ := gone
  table _ _ mem := mem
  stays _ _ mem _ := mem
  queues := rfl

theorem TakesApart.refl (gone : (s.history team).dissolving = true) : TakesApart team s s where
  toGrows := .refl s
  made_same := rfl
  others _ _ := ⟨rfl,rfl⟩
  gone _ := gone
  table _ _ mem := mem
  stays _ _ mem _ := mem
  queues := rfl

theorem release_apart (gone : (s.history team).dissolving = true) : TakesApart team s (release team exitRid armyIndex s) :=
  note_apart rfl rfl gone

theorem leave_apart (gone : (s.history team).dissolving = true) : TakesApart team s (leaveTeam order team exitRid armyIndex s) := by
  have taken : TakesApart team s (s.modify team (RallyTeam.leave order exitRid)) := modify_apart gone rfl rfl
  exact taken.trans (release_apart gone)

theorem clear_apart (gone : (s.history team).dissolving = true)
    (own : ∀ registered ∈ s.rallyTeamInfo.lookup (guildId,rid), registered = team) : TakesApart team s (s.clear guildId rid) where
  made := le_refl _
  teams _ _ := ⟨rfl,rfl⟩
  past _ _ := ⟨rfl,rfl,id⟩
  made_same := rfl
  others _ _ := ⟨rfl,rfl⟩
  gone _ := gone
  table key found mem := by
    change found ∈ (s.rallyTeamInfo.erase (guildId,rid)).lookup key at mem
    exact (Table.found_erase mem).2
  stays key found mem differs := by
    change found ∈ (s.rallyTeamInfo.erase (guildId,rid)).lookup key
    by_cases same : key = (guildId,rid)
    · subst same
      exact absurd (own found mem) differs
    · rwa [AList.lookup_erase_ne same]
  queues := rfl

theorem Dissolving.after {after : State} (going : Dissolving s call team) (apart : TakesApart team s after) : Dissolving after call team :=
  ⟨apart.toGrows.captured going.1,apart.gone going.1.1⟩

-- One step of a disband that has begun to take its team apart, and what it goes on to.
def Continues (team : Nat) (s : State) (outcome : Outcome) : Prop :=
  TakesApart team s outcome.1 ∧ ∀ ticket, ∀ next ∈ outcome.2, launchRelies outcome.1 ticket next

theorem exits_continue {after : State} (going : Dissolving s call team) (apart : TakesApart team s after) :
    Continues team s (disbandExits order call team seen after) := by
  have still := going.after apart
  unfold disbandExits
  split
  · refine ⟨apart,?_⟩
    intro ticket next mem
    cases mem
    exact still
  · refine ⟨apart,?_⟩
    intro ticket next mem
    cases mem
    exact still

theorem counters_continue (going : Dissolving s call team)
    (own : ∀ registered ∈ s.rallyTeamInfo.lookup (call.guildId,call.rid), registered = team) (targets : List Nat) :
    Continues team s (disbandCounters call team targets s) := by
  have same : TakesApart team s s := TakesApart.refl going.2
  induction targets with
  | nil =>
    have cleared : TakesApart team s (s.clear call.guildId call.rid) := clear_apart going.2 own
    have ended : TakesApart team (s.clear call.guildId call.rid)
        ((s.clear call.guildId call.rid).note team (fun past => {past with disbanded:=true})) := note_apart rfl rfl going.2
    exact ⟨cleared.trans ended,fun _ _ mem => by cases mem⟩
  | cons target targets ih =>
    unfold disbandCounters
    split
    · exact ⟨same,fun _ _ mem => by cases mem⟩
    · split
      · refine ⟨same,?_⟩
        intro ticket next mem
        cases mem
        exact going
      · exact ih

theorem warn_continues (order : Order Nat) (answer : Answer) (rallyObjectIndex : Nat) (captured : Captured s call team) :
    Continues team s (resumeDisband order answer call (.warn team rallyObjectIndex) s) ∨
    (resumeDisband order answer call (.warn team rallyObjectIndex) s).1 = s ∧
      ∀ next ∈ (resumeDisband order answer call (.warn team rallyObjectIndex) s).2, next = .disband call .exitBattle := by
  unfold resumeDisband
  dsimp only
  split
  · exact .inr ⟨rfl,fun _ mem => by cases mem⟩
  · split
    · refine .inr ⟨rfl,?_⟩
      intro next mem
      cases mem
      rfl
    · left
      have apart : TakesApart team s (s.note team (fun past => {past with dissolving:=true})) := note_apart rfl rfl rfl
      have going : Dissolving (s.note team (fun past => {past with dissolving:=true})) call team :=
        ⟨apart.toGrows.captured captured,apart.gone captured.1⟩
      have continues : Continues team (s.note team (fun past => {past with dissolving:=true}))
        (disbandExits order call team [] (s.note team (fun past => {past with dissolving:=true}))) := exits_continue going (.refl going.2)
      exact ⟨apart.trans continues.1,continues.2⟩

-- The team that is being taken apart.
def DisbandAt.taking : DisbandAt → Option Nat
  | .warn _ _ | .exitBattle => none
  | .refund team _ _ _ | .leave team _ _ _ _ | .notify team | .counter team _ => some team

theorem disband_continues (going : Dissolving s call team) (allowed : Untouched s (.resume (.disband call point) answer))
    (there : point.taking = some team) : Continues team s (resumeDisband order answer call point s) := by
  have same : TakesApart team s s := .refl going.2
  have stop : Continues team s (s,none) := ⟨same,fun _ _ mem => by cases mem⟩
  cases point with
  | warn | exitBattle => cases there
  | refund team seen exitRid armyIndex =>
    cases there
    simp only [resumeDisband]
    split
    · exact exits_continue going (release_apart going.2)
    · split
      · refine ⟨same,?_⟩
        intro ticket next mem
        cases mem
        exact going
      · exact exits_continue going same
  | leave team seen exitRid exitArmyIndex armyIndex =>
    cases there
    simp only [resumeDisband]
    split
    · exact exits_continue going (release_apart going.2)
    · exact exits_continue going (leave_apart going.2)
  | notify team =>
    cases there
    simp only [resumeDisband]
    split
    · exact stop
    · exact counters_continue going allowed answer.targets
  | counter team targets =>
    cases there
    simp only [resumeDisband]
    split
    · exact stop
    · exact counters_continue going allowed targets

-- Others rely on the queues, on the teams they captured and on what is not registered.
theorem relies_beside {after : State} (grows : Grows s after) (relied : launchRelies s ticket task)
    (inside : ∀ key, s.rallyLock.Inside key ticket → after.rallyLock.Inside key ticket)
    (elsewhere : ∀ call, s.rallyLock.Inside call.targetIndex ticket → Elsewhere s call → Elsewhere after call) :
    launchRelies after ticket task := by
  cases task with
  | launch call point =>
    cases point with
    | queued => trivial
    | sameGuild | army => exact ⟨inside _ relied.1,elsewhere call relied.1 relied.2⟩
    | announce => exact inside _ relied
  | disband call point =>
    cases point with
    | warn team _ => exact grows.captured relied
    | exitBattle => trivial
    | refund | leave | notify | counter => exact grows.dissolving relied
  | join | reinforce | exit | visit => exact relied.elim

theorem TakesApart.elsewhere {after : State} (apart : TakesApart team s after) (launched : Launched s) (call : Launch)
    (elsewhere : Elsewhere s call) : Elsewhere after call := by
  intro found mem
  have before := apart.table _ found mem
  rw [(apart.teams found (launched.known _ _ found before).1).2]
  exact elsewhere found before

theorem TakesApart.beside {after : State} (apart : TakesApart team s after) (launched : Launched s)
    (relied : launchRelies s ticket task) : launchRelies after ticket task :=
  relies_beside apart.toGrows relied (fun _ inside => apart.queues ▸ inside) (fun call _ => apart.elsewhere launched call)

theorem register_grows (call : Launch) : Grows s (registerTeam call armyIndex readyTime s) where
  made := Nat.le_succ _
  teams team low := by
    rw [register_teams_other s (Nat.ne_of_lt low)]
    exact ⟨rfl,rfl⟩
  past team low := by
    rw [register_history_other s (Nat.ne_of_lt low)]
    exact ⟨rfl,rfl,id⟩

-- No entry is overwritten.
theorem register_launched (launched : Launched s) (free : s.rallyTeamInfo.lookup (call.guildId,call.rid) = none) :
    Launched (registerTeam call armyIndex readyTime s) := by
  have old (team : Nat) (differs : team ≠ s.made) (lives : (registerTeam call armyIndex readyTime s).alive team) : s.alive team := by
    refine ⟨Nat.lt_of_le_of_ne (Nat.le_of_lt_succ lives.1) differs,?_⟩
    have going := lives.2
    rwa [register_history_other s differs] at going
  refine ⟨?_,?_,?_⟩
  · intro guildId rid team mem
    change team ∈ (s.rallyTeamInfo.insert (call.guildId,call.rid) s.made).lookup (guildId,rid) at mem
    by_cases same : (guildId,rid) = (call.guildId,call.rid)
    · rw [same,AList.lookup_insert] at mem
      cases mem
      cases same
      simp only [registerTeam,Function.update_self,Nat.lt_succ_self,and_self]
    · rw [AList.lookup_insert_ne same] at mem
      obtain ⟨low,guild,leader⟩ := launched.known guildId rid team mem
      have grows : Grows s (registerTeam call armyIndex readyTime s) := register_grows call
      exact ⟨Nat.lt_of_lt_of_le low grows.made,(grows.past team low).1.trans guild,(grows.teams team low).1.trans leader⟩
  · intro team lives
    by_cases same : team = s.made
    · subst same
      rw [register_teams_made,register_history_made]
      exact AList.lookup_insert _
    · have before := launched.registered team (old team same lives)
      rw [register_teams_other s same,register_history_other s same]
      change (s.rallyTeamInfo.insert (call.guildId,call.rid) s.made).lookup _ = _
      rw [AList.lookup_insert_ne,before]
      intro clash
      rw [clash,free] at before
      cases before
  · intro team lives
    by_cases same : team = s.made
    · subst same
      rw [register_teams_made,register_history_made]
      exact AList.lookup_insert _
    · have before := launched.listed team (old team same lives)
      rw [register_teams_other s same,register_history_other s same]
      exact before

theorem Launched.unlock (launched : Launched s) (key : Nat) : Launched (s.unlock key) :=
  ⟨launched.known,launched.registered,launched.listed⟩

-- What a launch does once it is inside.
theorem body_launched (launched : Launched s) (inside : s.rallyLock.Inside call.targetIndex ticket) :
    Launched (newRallyTeam call s).1 ∧ ∀ next ∈ (newRallyTeam call s).2, launchRelies (newRallyTeam call s).1 ticket next := by
  unfold newRallyTeam
  split
  · exact ⟨launched.unlock _,fun _ mem => by cases mem⟩
  · rename_i free
    refine ⟨launched,?_⟩
    intro next mem
    cases mem
    refine ⟨inside,?_⟩
    intro team there
    rw [Option.mem_def.mp there] at free
    exact absurd rfl free

theorem queues_beside (queues : Queues) (relied : launchRelies s ticket task)
    (inside : ∀ key, s.rallyLock.Inside key ticket → queues.Inside key ticket) : launchRelies {s with rallyLock:=queues} ticket task := by
  have grows : Grows s {s with rallyLock:=queues} := ⟨le_refl _,fun _ _ => ⟨rfl,rfl⟩,fun _ _ => ⟨rfl,rfl,id⟩⟩
  exact relies_beside grows relied inside (fun _ _ => id)

theorem lock_beside (relied : launchRelies s other task) (key ticket : Nat) : launchRelies (s.lock key ticket) other task :=
  queues_beside _ relied (fun _ held => Queues.inside_lock held key ticket)

theorem unlock_beside (inside : s.rallyLock.Inside key ticket) (apart : other ≠ ticket) (relied : launchRelies s other task) :
    launchRelies (s.unlock key) other task :=
  queues_beside _ relied (fun _ held => Queues.inside_unlock held inside apart)

theorem body_beside (inside : s.rallyLock.Inside call.targetIndex ticket) (apart : other ≠ ticket) (relied : launchRelies s other task) :
    launchRelies (newRallyTeam call s).1 other task := by
  unfold newRallyTeam
  split
  · exact unlock_beside inside apart relied
  · exact relied

-- The queue of the target leaves room for no other launch at it.
theorem register_beside (launched : Launched s) (inside : s.rallyLock.Inside call.targetIndex ticket) (apart : other ≠ ticket)
    (relied : launchRelies s other task) : launchRelies (registerTeam call armyIndex readyTime s) other task := by
  refine relies_beside (register_grows call) relied (fun _ held => held) ?_
  intro waiting held elsewhere team mem
  have target : waiting.targetIndex ≠ call.targetIndex := by
    intro same
    rw [same] at held
    exact apart (Queues.inside_unique held inside)
  change team ∈ (s.rallyTeamInfo.insert (call.guildId,call.rid) s.made).lookup (waiting.guildId,waiting.rid) at mem
  by_cases same : (waiting.guildId,waiting.rid) = (call.guildId,call.rid)
  · rw [same,AList.lookup_insert] at mem
    cases mem
    rw [register_teams_made]
    exact target.symm
  · rw [AList.lookup_insert_ne same] at mem
    rw [register_teams_other s (Nat.ne_of_lt (launched.known _ _ team mem).1)]
    exact elsewhere team mem

theorem launch_free (relied : Elsewhere s call) (allowed : Untouched s (.resume (.launch call .army) answer))
    (fine : answer.raises = false) (created : answer.armyIndex = some armyIndex) :
    s.rallyTeamInfo.lookup (call.guildId,call.rid) = none := by
  rcases Option.eq_none_or_eq_some (s.rallyTeamInfo.lookup (call.guildId,call.rid)) with none | ⟨team,found⟩
  · exact none
  · have same := allowed fine (by rw [created]; exact Option.some_ne_none _) team found
    exact absurd same (relied team found)

theorem launch_resumed (launched : Launched s) (relied : launchRelies s ticket (.launch call point))
    (allowed : Untouched s (.resume (.launch call point) answer)) :
    (Launched (resumeLaunch answer ticket call point s).1 ∧
      ∀ next ∈ (resumeLaunch answer ticket call point s).2, launchRelies (resumeLaunch answer ticket call point s).1 ticket next) ∧
    ∀ other task, launchRelies s other task → other ≠ ticket → launchRelies (resumeLaunch answer ticket call point s).1 other task := by
  have leave (inside : s.rallyLock.Inside call.targetIndex ticket) :
      (Launched (s.unlock call.targetIndex) ∧ ∀ next ∈ (none : Option Task), launchRelies (s.unlock call.targetIndex) ticket next) ∧
      ∀ other task, launchRelies s other task → other ≠ ticket → launchRelies (s.unlock call.targetIndex) other task :=
    ⟨⟨launched.unlock _,fun _ mem => by cases mem⟩,fun _ _ beside apart => unlock_beside inside apart beside⟩
  cases point with
  | queued =>
    simp only [resumeLaunch,wake]
    split
    · rename_i inside
      exact ⟨body_launched launched inside,fun _ _ beside apart => body_beside inside apart beside⟩
    · refine ⟨⟨launched,?_⟩,fun _ _ beside _ => beside⟩
      intro next mem
      cases mem
      trivial
  | sameGuild =>
    simp only [resumeLaunch]
    split
    · exact leave relied.1
    · refine ⟨⟨launched,?_⟩,fun _ _ beside _ => beside⟩
      intro next mem
      cases mem
      exact relied
  | army =>
    simp only [resumeLaunch]
    split
    · exact leave relied.1
    · rename_i armyIndex created
      split
      · exact leave relied.1
      · rename_i fine
        have free := launch_free relied.2 allowed (Bool.eq_false_iff.mpr fine) created
        refine ⟨⟨register_launched launched free,?_⟩,fun _ _ beside apart => register_beside launched relied.1 apart beside⟩
        intro next mem
        cases mem
        exact relied.1
  | announce => exact leave relied

theorem disband_resumed (launched : Launched s) (relied : launchRelies s ticket (.disband call point))
    (allowed : Untouched s (.resume (.disband call point) answer)) :
    (Launched (resumeDisband order answer call point s).1 ∧
      ∀ next ∈ (resumeDisband order answer call point s).2, launchRelies (resumeDisband order answer call point s).1 ticket next) ∧
    ∀ other task, launchRelies s other task → launchRelies (resumeDisband order answer call point s).1 other task := by
  have taken {team : Nat} (low : team < s.made) (continues : Continues team s (resumeDisband order answer call point s)) :
      (Launched (resumeDisband order answer call point s).1 ∧
        ∀ next ∈ (resumeDisband order answer call point s).2, launchRelies (resumeDisband order answer call point s).1 ticket next) ∧
      ∀ other task, launchRelies s other task → launchRelies (resumeDisband order answer call point s).1 other task :=
    ⟨⟨continues.1.launched launched low,continues.2 ticket⟩,fun _ _ beside => continues.1.beside launched beside⟩
  cases point with
  | warn team rallyObjectIndex =>
    rcases warn_continues order answer rallyObjectIndex relied with continues | ⟨same,next⟩
    · exact taken relied.1 continues
    · rw [same]
      refine ⟨⟨launched,?_⟩,fun _ _ beside => beside⟩
      intro task mem
      rw [next task mem]
      trivial
  | exitBattle => exact ⟨⟨launched,fun _ mem => by cases mem⟩,fun _ _ beside => beside⟩
  | refund | leave | notify | counter => exact taken relied.1.1 (disband_continues relied allowed rfl)

theorem launches_kept : KeepsApart (enter order) (resume order getRallyArmyMax) Untouched Launched launchRelies where
  entered s ticket request launched allowed := by
    cases request with
    | newRallyTeam call =>
      have locked : Launched (s.lock call.targetIndex ticket) := ⟨launched.known,launched.registered,launched.listed⟩
      simp only [enter,wake]
      split
      · rename_i inside
        exact body_launched locked inside
      · refine ⟨locked,?_⟩
        intro next mem
        cases mem
        trivial
    | disbandRallyArmy call =>
      simp only [enter,disbandRallyArmy]
      split
      · exact ⟨launched,fun _ mem => by cases mem⟩
      · rename_i team found
        refine ⟨launched,?_⟩
        intro next mem
        cases mem
        exact launched.known _ _ team found
    | joinRallyTeam | reinforceArrivalCallback | exitRallyTeam | dispatchRallyTimer | armyLoses => exact allowed.elim
  resumed s ticket task answer launched relied allowed := by
    cases task with
    | launch call point => exact (launch_resumed launched relied allowed).1
    | disband call point => exact (disband_resumed launched relied allowed).1
    | join | reinforce | exit | visit => exact relied.elim
  beside_entered s ticket request other task launched allowed relied apart := by
    cases request with
    | newRallyTeam call =>
      have locked : launchRelies (s.lock call.targetIndex ticket) other task := lock_beside relied _ _
      simp only [enter,wake]
      split
      · rename_i inside
        exact body_beside inside apart locked
      · exact locked
    | disbandRallyArmy call =>
      simp only [enter,disbandRallyArmy]
      split
      · exact relied
      · exact relied
    | joinRallyTeam | reinforceArrivalCallback | exitRallyTeam | dispatchRallyTimer | armyLoses => exact allowed.elim
  beside_resumed s ticket task answer other beside launched relied allowed reliedOther apart := by
    cases task with
    | launch call point => exact (launch_resumed launched relied allowed).2 other beside reliedOther apart
    | disband call point => exact (disband_resumed launched relied allowed).2 other beside reliedOther
    | join | reinforce | exit | visit => exact relied.elim

def idle : Service (Ticketed State) (Numbered Task) := ⟨⟨0,.empty⟩,[]⟩

-- No two teams of a leader are alive, each is registered and lists its leader's army,
-- and a launch that is about to succeed overwrites nothing.
theorem one_rally {last : Service (Ticketed State) (Numbered Task)}
    (path : Runs (Guarded (Acts order getRallyArmyMax) (Allowed (numbered Untouched))) idle events last) :
    (∀ team other, last.shared.state.alive team → last.shared.state.alive other →
      (last.shared.state.history team).guildId = (last.shared.state.history other).guildId →
      (last.shared.state.teams team).rallyRid = (last.shared.state.teams other).rallyRid → team = other) ∧
    (∀ team, last.shared.state.alive team →
      last.shared.state.rallyTeamInfo.lookup ((last.shared.state.history team).guildId,(last.shared.state.teams team).rallyRid) = some team ∧
      (last.shared.state.teams team).rallyArmy.lookup (last.shared.state.teams team).rallyRid =
        some (last.shared.state.history team).armyIndex) ∧
    (∀ ticket call answer armyIndex, ⟨ticket,.launch call .army⟩ ∈ last.waiting →
      Untouched last.shared.state (.resume (.launch call .army) answer) → answer.raises = false → answer.armyIndex = some armyIndex →
      last.shared.state.rallyTeamInfo.lookup (call.guildId,call.rid) = none) := by
  have fresh : Launched State.empty := by
    refine ⟨?_,?_,?_⟩
    · intro _ _ _ mem
      cases mem
    · intro team lives
      exact absurd lives.1 (Nat.not_lt_zero team)
    · intro team lives
      exact absurd lives.1 (Nat.not_lt_zero team)
  obtain ⟨launched,relied⟩ := launches_kept.run path rfl fresh
  refine ⟨?_,?_,?_⟩
  · intro team other lives also guild leader
    have found := launched.registered team lives
    rw [guild,leader,launched.registered other also] at found
    exact (Option.some.inj found).symm
  · intro team lives
    exact ⟨launched.registered team lives,launched.listed team lives⟩
  · intro ticket call answer armyIndex mem allowed fine created
    have waits := relied _ mem
    exact launch_free waits.2 allowed fine created

end Launching

def reply : Answer := ⟨false,false,0,none,none,0,0,[]⟩

-- Two launches of one leader at different targets: the second overwrites the first, whose
-- army is in no registered team.
theorem launches_overlap : ∃ events last, Runs (Acts .stored (fun _ => 100)) idle events last ∧ last.waiting = [] ∧
    last.shared.state.alive 0 ∧ last.shared.state.alive 1 ∧
    ((last.shared.state.history 0).guildId,(last.shared.state.teams 0).rallyRid) = (4,7) ∧
    ((last.shared.state.history 1).guildId,(last.shared.state.teams 1).rallyRid) = (4,7) ∧
    last.shared.state.rallyTeamInfo.entries = [⟨(4,7),1⟩] := by
  apply play_unguarded [.call (.newRallyTeam ⟨7,4,10⟩),.call (.newRallyTeam ⟨7,4,20⟩),.resume 0 reply,.resume 1 reply,
    .resume 0 {reply with armyIndex:=some 1},.resume 1 {reply with armyIndex:=some 2},.resume 0 reply,.resume 0 reply] idle
  decide

instance (s : State) : (event : Event Request Task Answer) → Decidable (Untouched s event)
  | .call (.newRallyTeam _) | .call (.disbandRallyArmy _) => isTrue trivial
  | .call (.joinRallyTeam _) | .call (.reinforceArrivalCallback _) | .call (.exitRallyTeam _) | .call (.dispatchRallyTimer _)
  | .call (.armyLoses _ _ _) => isFalse id
  | .resume (.launch call .army) answer => inferInstanceAs (Decidable (answer.raises = false → answer.armyIndex ≠ none →
      ∀ team ∈ s.rallyTeamInfo.lookup (call.guildId,call.rid), (s.teams team).rallyTargetIndex = call.targetIndex))
  | .resume (.disband call (.notify team)) _ | .resume (.disband call (.counter team _)) _ =>
    inferInstanceAs (Decidable (∀ registered ∈ s.rallyTeamInfo.lookup (call.guildId,call.rid), registered = team))
  | .resume (.launch _ .queued) _ | .resume (.launch _ .sameGuild) _ | .resume (.launch _ .announce) _ => isTrue trivial
  | .resume (.disband _ (.warn _ _)) _ | .resume (.disband _ .exitBattle) _ | .resume (.disband _ (.refund _ _ _ _)) _
  | .resume (.disband _ (.leave _ _ _ _ _)) _ => isTrue trivial
  | .resume (.join _ _) _ | .resume (.reinforce _ _) _ | .resume (.exit _ _) _ | .resume (.visit _ _) _ => isTrue trivial

-- A second launch at the same target waits for the first and is refused; one at another
-- target comes after the disband.
theorem launch_again : ∃ events last, Runs (Guarded (Acts .stored (fun _ => 100)) (Allowed (numbered Untouched))) idle events last ∧
    (last.shared.state.rallyTeamInfo.lookup (4,7) = some 1 ∧ last.shared.state.made = 2 ∧ last.shared.state.alive 1) ∧
    (last.shared.state.teams 1).rallyArmy.lookup (last.shared.state.teams 1).rallyRid = some (last.shared.state.history 1).armyIndex := by
  have played : ∃ events last, Runs (Guarded (Acts .stored (fun _ => 100)) (Allowed (numbered Untouched))) idle events last ∧
      last.shared.state.rallyTeamInfo.lookup (4,7) = some 1 ∧ last.shared.state.made = 2 ∧ last.shared.state.alive 1 := by
    apply play_reaches (fun s event => decide (numbered Untouched s event)) (fun _ _ passed => of_decide_eq_true passed)
      [.call (.newRallyTeam ⟨7,4,10⟩),.call (.newRallyTeam ⟨7,4,10⟩),.resume 1 reply,.resume 1 {reply with armyIndex:=some 1},.resume 0 reply,
        .resume 1 reply,.resume 0 reply,.call (.disbandRallyArmy ⟨4,7,false⟩),.resume 0 reply,.resume 0 reply,.resume 0 reply,.resume 0 reply,
        .call (.newRallyTeam ⟨7,4,20⟩),.resume 0 reply,.resume 0 {reply with armyIndex:=some 2}] idle
    decide
  obtain ⟨events,last,path,reached⟩ := played
  exact ⟨events,last,path,reached,((one_rally path).2.1 1 reached.2.2).2⟩

end OriginGame.RallyMgr
