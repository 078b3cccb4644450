import OriginGame.RallyMgr

namespace OriginGame.RallyMgr

section Capacity
variable {order : Order Nat} {getRallyArmyMax : Nat → Nat} {s : State}

def State.total (s : State) (team : Nat) : Nat := (s.teams team).rallyArmy.sumKeyed s.soldiers

-- What a count that has seen these members may leave out.
def State.totalOf (s : State) (team : Nat) (seen : List Nat) : Nat :=
  (s.teams team).rallyArmy.sumKeyed (fun member armyIndex => if member ∈ seen then s.soldiers member armyIndex else 0)

-- The count ends with this member and the army goes in at once.
def ArrivesAt (order : Order Nat) (getRallyArmyMax : Nat → Nat) (s : State) (armyCount : Nat) (battleing : Bool) (count : Count)
    (member armyIndex : Nat) : Prop :=
  battleing = false ∧ nextMember order (member::count.seen) (s.teams count.team).rallyArmy = none ∧
    count.sum+s.soldiers member armyIndex+armyCount ≤ getRallyArmyMax count.team

-- Joins, reinforcements and exits. An army is admitted only if nothing was admitted since
-- its count began; two joins never overlap anyway. Armies do not grow: a new army takes
-- no index that is listed, and none is larger than it was counted.
def Unhurried (order : Order Nat) (getRallyArmyMax : Nat → Nat) (s : State) : Event Request Task Answer → Prop
  | .call (.joinRallyTeam _) | .call (.reinforceArrivalCallback _) | .call (.exitRallyTeam _) | .call (.armyLoses _ _ _) => True
  | .call _ => False
  | .resume (.join call (.march team since)) answer =>
    (call.armyIndex = none → ∀ armyIndex ∈ answer.armyIndex, ∀ other < s.made, (s.teams other).rallyArmy.lookup call.rallyRid ≠ some armyIndex) ∧
    (∀ armyIndex ∈ call.armyIndex, s.soldiers call.rallyRid armyIndex ≤ call.soldierSum) ∧
    (answer.arrivalTime ≠ none → (s.history team).reinforced = since.2)
  | .resume (.reinforce call (.max _ _ armyCount _)) _ => s.soldiers call.reinforceRid call.armyIndex ≤ armyCount
  | .resume (.reinforce call (.count _ armyCount battleing count member armyIndex)) _ =>
    s.soldiers call.reinforceRid call.armyIndex ≤ armyCount ∧
    (ArrivesAt order getRallyArmyMax s armyCount battleing count member armyIndex → RallyMgr.since count.team s = count.since)
  | .resume (.reinforce call (.exitBattle _ team armyCount since)) _ =>
    s.soldiers call.reinforceRid call.armyIndex ≤ armyCount ∧ RallyMgr.since team s = since
  | .resume _ _ => True

structure Manned (getRallyArmyMax : Nat → Nat) (s : State) : Prop where
  fits : ∀ team < s.made, s.total team ≤ getRallyArmyMax team
  known : ∀ guildId rid, ∀ team ∈ s.rallyTeamInfo.lookup (guildId,rid), team < s.made ∧ (s.teams team).rallyRid = rid

def Leads (s : State) (rid team : Nat) : Prop := team < s.made ∧ (s.teams team).rallyRid = rid

-- Nothing newer than what there is, and as long as there is nothing newer the count holds.
def Covers (s : State) (count : Count) (member armyIndex : Nat) : Prop :=
  s.totalOf count.team count.seen ≤ count.sum ∧ ∀ found ∈ (s.teams count.team).rallyArmy.lookup member, found = armyIndex

def Earlier (since now : Nat × Nat) : Prop := since.1 ≤ now.1 ∧ since.2 ≤ now.2

def capacityRelies (getRallyArmyMax : Nat → Nat) (s : State) (ticket : Nat) : Task → Prop
  | .join _ .queued => True
  | .join call (.max team) | .join call (.announce team _) => s.rallyLock.Inside call.rid ticket ∧ Leads s call.rid team
  | .join call (.count count member armyIndex) => s.rallyLock.Inside call.rid ticket ∧ Leads s call.rid count.team ∧
    Earlier count.since (since count.team s) ∧ ((s.history count.team).reinforced = count.since.2 → Covers s count member armyIndex)
  | .join call (.march team since) => s.rallyLock.Inside call.rid ticket ∧ Leads s call.rid team ∧
    Earlier since (RallyMgr.since team s) ∧
    ((s.history team).reinforced = since.2 → s.total team+call.soldierSum ≤ getRallyArmyMax team)
  | .reinforce _ .guild | .reinforce _ (.army _) | .reinforce _ .notify => True
  | .reinforce call (.max guildId team _ _) => s.rallyTeamInfo.lookup (guildId,call.rid) = some team
  | .reinforce call (.count guildId _ _ count member armyIndex) => s.rallyTeamInfo.lookup (guildId,call.rid) = some count.team ∧
    Earlier count.since (since count.team s) ∧ (since count.team s = count.since → Covers s count member armyIndex)
  | .reinforce call (.exitBattle guildId team armyCount since) => s.rallyTeamInfo.lookup (guildId,call.rid) = some team ∧
    Earlier since (RallyMgr.since team s) ∧ (RallyMgr.since team s = since → s.total team+armyCount ≤ getRallyArmyMax team)
  | .exit _ .guild | .exit _ (.sync _) => True
  | .exit _ (.refund _ team) | .exit _ (.leave _ team _) => team < s.made
  | _ => False

-- Fewer members and smaller armies.
def Shrinks (s after : State) (team : Nat) : Prop :=
  ∀ member, ∀ armyIndex ∈ (after.teams team).rallyArmy.lookup member,
    armyIndex ∈ (s.teams team).rallyArmy.lookup member ∧ after.soldiers member armyIndex ≤ s.soldiers member armyIndex

theorem Shrinks.total {after : State} (shrinks : Shrinks s after team) : after.total team ≤ s.total team := Table.sumKeyed_mono shrinks

theorem Shrinks.totalOf {after : State} (shrinks : Shrinks s after team) (seen : List Nat) :
    after.totalOf team seen ≤ s.totalOf team seen := by
  apply Table.sumKeyed_mono
  intro member armyIndex mem
  obtain ⟨there,smaller⟩ := shrinks member armyIndex mem
  refine ⟨there,?_⟩
  split
  · exact smaller
  · exact le_refl _

-- What a step under one ticket leaves to the others.
structure Calm (ticket : Nat) (s after : State) : Prop where
  made : after.made = s.made
  table : after.rallyTeamInfo = s.rallyTeamInfo
  leader : ∀ team < s.made, (after.teams team).rallyRid = (s.teams team).rallyRid
  later : ∀ team < s.made, Earlier (since team s) (since team after)
  shrinks : ∀ team < s.made, since team after = since team s → Shrinks s after team
  joins : ∀ team < s.made, (after.history team).joined ≠ (s.history team).joined → s.rallyLock.Inside (s.teams team).rallyRid ticket
  queues : ∀ other key, other ≠ ticket → s.rallyLock.Inside key other → after.rallyLock.Inside key other

theorem Covers.shrinks {after : State} (covers : Covers s count member armyIndex) (shrinks : Shrinks s after count.team) :
    Covers after count member armyIndex :=
  ⟨le_trans (shrinks.totalOf _) covers.1,fun found mem => covers.2 found (shrinks member found mem).1⟩

theorem Earlier.refl (now : Nat × Nat) : Earlier now now := ⟨le_refl _,le_refl _⟩

theorem Earlier.trans (first : Earlier before now) (second : Earlier now after) : Earlier before after :=
  ⟨le_trans first.1 second.1,le_trans first.2 second.2⟩

theorem Earlier.antisymm (first : Earlier before now) (second : Earlier now before) : now = before :=
  Prod.ext (le_antisymm second.1 first.1) (le_antisymm second.2 first.2)

theorem Calm.refl (ticket : Nat) (s : State) : Calm ticket s s where
  made := rfl
  table := rfl
  leader _ _ := rfl
  later _ _ := .refl _
  shrinks _ _ _ _ _ mem := ⟨mem,le_refl _⟩
  joins _ _ differs := absurd rfl differs
  queues _ _ _ inside := inside

theorem Calm.trans {middle after : State} (left : Calm ticket s middle) (right : Calm ticket middle after)
    (same : ∀ team, (after.history team).joined ≠ (middle.history team).joined → middle.rallyLock = s.rallyLock) : Calm ticket s after where
  made := right.made.trans left.made
  table := right.table.trans left.table
  leader team low := (right.leader team (left.made ▸ low)).trans (left.leader team low)
  later team low := (left.later team low).trans (right.later team (left.made ▸ low))
  shrinks team low still member armyIndex mem := by
    have first := left.later team low
    have second := right.later team (left.made ▸ low)
    have between : since team middle = since team s := first.antisymm (still ▸ second)
    obtain ⟨there,smaller⟩ := right.shrinks team (left.made ▸ low) (still.trans between.symm) member armyIndex mem
    obtain ⟨before,larger⟩ := left.shrinks team low between member armyIndex there
    exact ⟨before,le_trans smaller larger⟩
  joins team low differs := by
    by_cases still : (middle.history team).joined = (s.history team).joined
    · have changed : (after.history team).joined ≠ (middle.history team).joined := still ▸ differs
      have inside := right.joins team (left.made ▸ low) changed
      rwa [same team changed,left.leader team low] at inside
    · exact left.joins team low still
  queues other key apart inside := right.queues other key apart (left.queues other key apart inside)

theorem Calm.manned {after : State} (calm : Calm ticket s after) (manned : Manned getRallyArmyMax s)
    (fits : ∀ team < s.made, since team after ≠ since team s → after.total team ≤ getRallyArmyMax team) :
    Manned getRallyArmyMax after := by
  refine ⟨?_,?_⟩
  · intro team low
    rw [calm.made] at low
    by_cases still : since team after = since team s
    · exact le_trans (calm.shrinks team low still).total (manned.fits team low)
    · exact fits team low still
  · intro guildId rid team mem
    rw [calm.table] at mem
    obtain ⟨low,leader⟩ := manned.known guildId rid team mem
    exact ⟨calm.made ▸ low,(calm.leader team low).trans leader⟩

theorem Calm.leads {after : State} (calm : Calm ticket s after) (leads : Leads s rid team) : Leads after rid team :=
  ⟨calm.made ▸ leads.1,(calm.leader team leads.1).trans leads.2⟩

-- A join that is inside sees no other join at its team.
theorem Calm.no_join {after : State} (calm : Calm ticket s after) (apart : other ≠ ticket) (inside : s.rallyLock.Inside rid other)
    (leads : Leads s rid team) : (after.history team).joined = (s.history team).joined := by
  by_contra differs
  have also := calm.joins team leads.1 differs
  rw [leads.2] at also
  exact apart (Queues.inside_unique inside also)

theorem Calm.unreinforced {after : State} (calm : Calm ticket s after) (apart : other ≠ ticket) (inside : s.rallyLock.Inside rid other)
    (leads : Leads s rid team) (earlier : Earlier before (since team s)) (still : (after.history team).reinforced = before.2) :
    (s.history team).reinforced = before.2 ∧ Shrinks s after team := by
  have later := (calm.later team leads.1).2
  have same : (s.history team).reinforced = before.2 := le_antisymm (still ▸ later) earlier.2
  exact ⟨same,calm.shrinks team leads.1 (Prod.ext (calm.no_join apart inside leads) (still.trans same.symm))⟩

theorem Calm.unadmitted {after : State} (calm : Calm ticket s after) (low : team < s.made) (earlier : Earlier before (since team s))
    (still : since team after = before) : since team s = before ∧ Shrinks s after team := by
  have same : since team s = before := earlier.antisymm (still ▸ calm.later team low)
  exact ⟨same,calm.shrinks team low (still.trans same.symm)⟩

theorem Calm.beside {after : State} (calm : Calm ticket s after) (manned : Manned getRallyArmyMax s) (apart : other ≠ ticket)
    (relied : capacityRelies getRallyArmyMax s other task) : capacityRelies getRallyArmyMax after other task := by
  have inside {key : Nat} := calm.queues other key apart
  cases task with
  | join call point =>
    cases point with
    | queued => trivial
    | max team | announce team _ => exact ⟨inside relied.1,calm.leads relied.2⟩
    | count count member armyIndex =>
      obtain ⟨held,leads,earlier,covers⟩ := relied
      refine ⟨inside held,calm.leads leads,earlier.trans (calm.later _ leads.1),?_⟩
      intro still
      obtain ⟨same,shrinks⟩ := calm.unreinforced apart held leads earlier still
      exact (covers same).shrinks shrinks
    | march team before =>
      obtain ⟨held,leads,earlier,fits⟩ := relied
      refine ⟨inside held,calm.leads leads,earlier.trans (calm.later _ leads.1),?_⟩
      intro still
      obtain ⟨same,shrinks⟩ := calm.unreinforced apart held leads earlier still
      exact le_trans (Nat.add_le_add_right shrinks.total _) (fits same)
  | reinforce call point =>
    cases point with
    | guild | army | notify => trivial
    | max guildId team _ _ => exact (congrArg (AList.lookup _) calm.table).trans relied
    | count guildId armyCount battleing count member armyIndex =>
      obtain ⟨found,earlier,covers⟩ := relied
      have low := (manned.known _ _ _ found).1
      refine ⟨(congrArg (AList.lookup _) calm.table).trans found,earlier.trans (calm.later _ low),?_⟩
      intro still
      obtain ⟨same,shrinks⟩ := calm.unadmitted low earlier still
      exact (covers same).shrinks shrinks
    | exitBattle guildId team armyCount before =>
      obtain ⟨found,earlier,fits⟩ := relied
      have low := (manned.known _ _ _ found).1
      refine ⟨(congrArg (AList.lookup _) calm.table).trans found,earlier.trans (calm.later _ low),?_⟩
      intro still
      obtain ⟨same,shrinks⟩ := calm.unadmitted low earlier still
      exact le_trans (Nat.add_le_add_right shrinks.total _) (fits same)
  | exit call point =>
    cases point with
    | guild | sync => trivial
    | refund _ team | leave _ team _ => exact Nat.lt_of_lt_of_eq relied calm.made.symm
  | launch | disband | visit => exact relied.elim

theorem queues_calm (queues : Queues) (inside : ∀ other key, other ≠ ticket → s.rallyLock.Inside key other → queues.Inside key other) :
    Calm ticket s {s with rallyLock:=queues} where
  made := rfl
  table := rfl
  leader _ _ := rfl
  later _ _ := .refl _
  shrinks _ _ _ _ _ mem := ⟨mem,le_refl _⟩
  joins _ _ differs := absurd rfl differs
  queues := inside

theorem lock_calm (key ticket : Nat) : Calm ticket s (s.lock key ticket) :=
  queues_calm _ (fun _ _ _ inside => Queues.inside_lock inside _ _)

theorem unlock_calm (inside : s.rallyLock.Inside key ticket) : Calm ticket s (s.unlock key) :=
  queues_calm _ (fun _ _ apart held => Queues.inside_unlock held inside apart)

-- A change of one team that lets members out at most.
theorem modify_calm (leader : (change (s.teams team)).rallyRid = (s.teams team).rallyRid)
    (fewer : ∀ member, ∀ armyIndex ∈ (change (s.teams team)).rallyArmy.lookup member, armyIndex ∈ (s.teams team).rallyArmy.lookup member) :
    Calm ticket s (s.modify team change) where
  made := rfl
  table := rfl
  leader other _ := by
    by_cases same : other = team
    · subst same
      rw [State.modify_self]
      exact leader
    · rw [State.modify_other _ _ same]
  later _ _ := .refl _
  shrinks other _ _ member armyIndex mem := by
    refine ⟨?_,le_refl _⟩
    by_cases same : other = team
    · subst same
      rw [State.modify_self] at mem
      exact fewer member armyIndex mem
    · rwa [State.modify_other _ _ same] at mem
  joins _ _ differs := absurd rfl differs
  queues _ _ _ inside := inside

theorem release_calm (team exitRid armyIndex : Nat) : Calm ticket s (release team exitRid armyIndex s) := by
  have same (other : Nat) : since other (release team exitRid armyIndex s) = since other s := by
    by_cases here : other = team
    · subst here
      simp only [since,release,State.note_self]
    · simp only [since,release,State.note_other _ _ here]
  exact {
    made := rfl
    table := rfl
    leader := fun _ _ => rfl
    later := fun other _ => by
      rw [same other]
      exact .refl _
    shrinks := fun _ _ _ _ _ mem => ⟨mem,le_refl _⟩
    joins := fun other _ differs => absurd (congrArg Prod.fst (same other)) differs
    queues := fun _ _ _ inside => inside }

theorem leave_calm (team exitRid armyIndex : Nat) : Calm ticket s (leaveTeam order team exitRid armyIndex s) := by
  have out : Calm ticket s (s.modify team (RallyTeam.leave order exitRid)) := by
    refine modify_calm rfl ?_
    intro member found mem
    change found ∈ ((s.teams team).rallyArmy.erase exitRid).lookup member at mem
    exact (Table.found_erase mem).2
  exact out.trans (release_calm team exitRid armyIndex) (fun _ _ => rfl)

-- Armies change their size elsewhere, or are made under an index that is not listed.
theorem army_calm (count : Nat)
    (smaller : ∀ team < s.made, (s.teams team).rallyArmy.lookup rid = some armyIndex → count ≤ s.soldiers rid armyIndex) :
    Calm ticket s (s.createArmy rid armyIndex count) where
  made := rfl
  table := rfl
  leader _ _ := rfl
  later _ _ := .refl _
  shrinks team low _ member found mem := by
    refine ⟨mem,?_⟩
    simp only [State.createArmy]
    by_cases same : member = rid
    · subst same
      rw [Function.update_self]
      by_cases here : found = armyIndex
      · subst here
        rw [Function.update_self]
        exact smaller team low mem
      · rw [Function.update_of_ne here]
    · rw [Function.update_of_ne same]
  joins _ _ differs := absurd rfl differs
  queues _ _ _ inside := inside

theorem creates_calm (free : call.armyIndex = none → ∀ armyIndex ∈ answer.armyIndex, ∀ other < s.made,
      (s.teams other).rallyArmy.lookup call.rallyRid ≠ some armyIndex) : Calm ticket s (joinCreates call answer s) := by
  unfold joinCreates
  split
  · rename_i armyIndex chosen created
    exact army_calm _ (fun team low listed => absurd listed (free chosen armyIndex created team low))
  · exact .refl _ _

theorem since_other (s : State) (change : RallyTeam → RallyTeam) (mark : History → History) (differs : other ≠ team) :
    since other ((s.modify team change).note team mark) = since other s := by
  simp only [since,State.note_other _ _ differs]
  rfl

theorem admit_calm (leader : (change (s.teams team)).rallyRid = (s.teams team).rallyRid)
    (later : Earlier (since team s) (since team ((s.modify team change).note team mark)))
    (newer : since team ((s.modify team change).note team mark) ≠ since team s)
    (joins : (mark (s.history team)).joined ≠ (s.history team).joined → s.rallyLock.Inside (s.teams team).rallyRid ticket) :
    Calm ticket s ((s.modify team change).note team mark) where
  made := rfl
  table := rfl
  leader other _ := by
    change ((s.modify team change).teams other).rallyRid = _
    by_cases same : other = team
    · subst same
      rw [State.modify_self]
      exact leader
    · rw [State.modify_other _ _ same]
  later other _ := by
    by_cases same : other = team
    · subst same
      exact later
    · rw [since_other _ _ _ same]
      exact .refl _
  shrinks other _ still member armyIndex mem := by
    by_cases same : other = team
    · subst same
      exact absurd still newer
    · change armyIndex ∈ ((s.modify team change).teams other).rallyArmy.lookup member at mem
      rw [State.modify_other _ _ same] at mem
      exact ⟨mem,le_refl _⟩
  joins other _ differs := by
    by_cases same : other = team
    · subst same
      rw [State.note_self] at differs
      exact joins differs
    · rw [State.note_other _ _ same] at differs
      exact absurd rfl differs
  queues _ _ _ inside := inside

theorem admit_total {change : RallyTeam → RallyTeam} {mark : History → History} {rid armyIndex : Nat}
    (inserts : (change (s.teams team)).rallyArmy = (s.teams team).rallyArmy.insert rid armyIndex) :
    ((s.modify team change).note team mark).total team ≤ s.total team+s.soldiers rid armyIndex := by
  change Table.sumKeyed s.soldiers ((s.modify team change).teams team).rallyArmy ≤ _
  rw [State.modify_self,inserts,Table.sumKeyed_insert]
  have rest := Table.sumKeyed_erase_le s.soldiers (s.teams team).rallyArmy rid
  unfold State.total
  omega

theorem join_since (team rallyRid armyIndex arrivalTime objectIndex : Nat) :
    since team (admitJoin team rallyRid armyIndex arrivalTime objectIndex s) = ((s.history team).joined+1,(s.history team).reinforced) := by
  simp only [since,admitJoin,State.note_self]
  rfl

theorem join_calm (inside : s.rallyLock.Inside (s.teams team).rallyRid ticket) (rallyRid armyIndex arrivalTime objectIndex : Nat) :
    Calm ticket s (admitJoin team rallyRid armyIndex arrivalTime objectIndex s) := by
  have now := join_since (s:=s) team rallyRid armyIndex arrivalTime objectIndex
  refine admit_calm rfl ?_ ?_ (fun _ => inside)
  · change Earlier _ (since team (admitJoin team rallyRid armyIndex arrivalTime objectIndex s))
    rw [now]
    exact ⟨Nat.le_succ _,le_refl _⟩
  · change since team (admitJoin team rallyRid armyIndex arrivalTime objectIndex s) ≠ _
    rw [now]
    intro same
    exact Nat.succ_ne_self _ (congrArg Prod.fst same)

theorem reinforce_since (team reinforceRid armyIndex : Nat) :
    since team (admitReinforce team reinforceRid armyIndex s) = ((s.history team).joined,(s.history team).reinforced+1) := by
  simp only [since,admitReinforce,State.note_self]
  rfl

theorem reinforce_calm (team reinforceRid armyIndex : Nat) : Calm ticket s (admitReinforce team reinforceRid armyIndex s) := by
  have now := reinforce_since (s:=s) team reinforceRid armyIndex
  unfold admitReinforce at now ⊢
  refine admit_calm rfl ?_ ?_ ?_
  · rw [now]
    exact ⟨le_refl _,Nat.le_succ _⟩
  · rw [now]
    intro same
    exact Nat.succ_ne_self _ (congrArg Prod.snd same)
  · intro differs
    exact absurd rfl differs

-- The count goes over one more member.
theorem totalOf_cons (only : ∀ found ∈ (s.teams team).rallyArmy.lookup member, found = armyIndex) :
    s.totalOf team (member::seen) ≤ s.totalOf team seen+s.soldiers member armyIndex := by
  unfold State.totalOf
  rw [Table.sumKeyed_split _ _ member]
  have head : (((s.teams team).rallyArmy.lookup member).map
      (fun armyIndex => if member ∈ member::seen then s.soldiers member armyIndex else 0)).getD 0 ≤ s.soldiers member armyIndex := by
    rcases Option.eq_none_or_eq_some ((s.teams team).rallyArmy.lookup member) with none | ⟨found,here⟩
    · rw [none]
      exact Nat.zero_le _
    · rw [here,only found here]
      simp
  have rest : Table.sumKeyed (fun k v => if k ∈ member::seen then s.soldiers k v else 0) ((s.teams team).rallyArmy.erase member) ≤
      Table.sumKeyed (fun k v => if k ∈ seen then s.soldiers k v else 0) (s.teams team).rallyArmy := by
    apply Table.sumKeyed_mono
    intro k v mem
    obtain ⟨same,mem⟩ := Table.found_erase mem
    refine ⟨mem,?_⟩
    simp only [List.mem_cons,same,false_or,le_refl]
  omega

theorem totalOf_nil (s : State) (team : Nat) : s.totalOf team [] = 0 := by
  simp [State.totalOf,Table.sumKeyed]

theorem total_counted (ended : nextMember order seen (s.teams team).rallyArmy = none) : s.total team ≤ s.totalOf team seen := by
  apply Table.sumKeyed_mono
  intro member armyIndex mem
  refine ⟨mem,?_⟩
  rw [if_pos (nextMember_none ended mem)]

-- What a step of a handler must give: the others are left alone, and it may rely on what comes next.
structure Sound (getRallyArmyMax : Nat → Nat) (ticket : Nat) (s : State) (outcome : Outcome) : Prop where
  calm : Calm ticket s outcome.1
  manned : Manned getRallyArmyMax outcome.1
  next : ∀ task ∈ outcome.2, capacityRelies getRallyArmyMax outcome.1 ticket task

theorem sound_none {after : State} (manned : Manned getRallyArmyMax s) (calm : Calm ticket s after)
    (still : ∀ team, since team after = since team s) : Sound getRallyArmyMax ticket s (after,none) :=
  ⟨calm,calm.manned manned (fun team _ differs => absurd (still team) differs),fun _ mem => by cases mem⟩

theorem sound_some (manned : Manned getRallyArmyMax s) (relied : capacityRelies getRallyArmyMax s ticket task) :
    Sound getRallyArmyMax ticket s (s,some task) := by
  refine ⟨.refl _ _,manned,?_⟩
  intro other mem
  cases mem
  exact relied

theorem sound_unlock (manned : Manned getRallyArmyMax s) (inside : s.rallyLock.Inside key ticket) :
    Sound getRallyArmyMax ticket s (s.unlock key,none) := sound_none manned (unlock_calm inside) (fun _ => rfl)

theorem Sound.after {middle : State} (sound : Sound getRallyArmyMax ticket middle outcome) (calm : Calm ticket s middle)
    (same : middle.rallyLock = s.rallyLock) : Sound getRallyArmyMax ticket s outcome :=
  ⟨calm.trans sound.calm (fun _ _ => same),sound.manned,sound.next⟩

theorem joinRally_sound (manned : Manned getRallyArmyMax s) (inside : s.rallyLock.Inside call.rid ticket) :
    Sound getRallyArmyMax ticket s (joinRally call s) := by
  unfold joinRally
  split
  · exact sound_unlock manned inside
  · rename_i team found
    split
    · exact sound_unlock manned inside
    · exact sound_some manned ⟨inside,manned.known _ _ team found⟩

theorem joinCounts_sound (manned : Manned getRallyArmyMax s) (inside : s.rallyLock.Inside call.rid ticket)
    (leads : Leads s call.rid count.team) (earlier : Earlier count.since (since count.team s))
    (counted : (s.history count.team).reinforced = count.since.2 → s.totalOf count.team count.seen ≤ count.sum) :
    Sound getRallyArmyMax ticket s (joinCounts order getRallyArmyMax call count s) := by
  unfold joinCounts
  split
  · rename_i member armyIndex found
    refine sound_some manned ⟨inside,leads,earlier,?_⟩
    intro still
    refine ⟨counted still,?_⟩
    intro other there
    rw [nextMember_some found] at there
    exact (Option.some.inj there).symm
  · rename_i ended
    split
    · rename_i room
      refine sound_some manned ⟨inside,leads,earlier,?_⟩
      intro still
      have all := total_counted ended
      have known := counted still
      omega
    · exact sound_unlock manned inside

section march
variable {call : Join} {answer : Answer}

theorem joinCreates_since (other : Nat) : since other (joinCreates call answer s) = since other s := by
  unfold joinCreates
  split <;> rfl

theorem joinCreates_rallyLock : (joinCreates call answer s).rallyLock = s.rallyLock := by
  unfold joinCreates
  split <;> rfl

-- A new army is as large as the call said, an old one was found to be no larger.
theorem joinCreates_soldiers (army : call.armyIndex.or answer.armyIndex = some armyIndex)
    (chosen : ∀ armyIndex ∈ call.armyIndex, s.soldiers call.rallyRid armyIndex ≤ call.soldierSum) :
    (joinCreates call answer s).soldiers call.rallyRid armyIndex ≤ call.soldierSum := by
  unfold joinCreates
  cases choice : call.armyIndex with
  | none =>
    rw [choice,Option.none_or] at army
    rw [army]
    simp only [State.createArmy,Function.update_self,le_refl]
  | some own =>
    rw [choice,Option.some_or] at army
    cases army
    exact chosen armyIndex choice

-- An army that fits is admitted.
theorem admitJoin_sound (manned : Manned getRallyArmyMax s) (inside : s.rallyLock.Inside call.rid ticket) (leads : Leads s call.rid team)
    (room : s.total team+s.soldiers call.rallyRid armyIndex ≤ getRallyArmyMax team) (arrivalTime objectIndex : Nat) :
    Sound getRallyArmyMax ticket s
      (admitJoin team call.rallyRid armyIndex arrivalTime objectIndex s,some (.join call (.announce team arrivalTime))) := by
  have held : s.rallyLock.Inside (s.teams team).rallyRid ticket := by
    rw [leads.2]
    exact inside
  have admits := join_calm held call.rallyRid armyIndex arrivalTime objectIndex
  refine ⟨admits,admits.manned manned ?_,?_⟩
  · intro other _ differs
    by_cases same : other = team
    · subst same
      exact le_trans (admit_total rfl) room
    · exact absurd (since_other _ _ _ same) differs
  · intro task mem
    cases mem
    exact ⟨inside,admits.leads leads⟩

end march

theorem join_sound (manned : Manned getRallyArmyMax s) (relied : capacityRelies getRallyArmyMax s ticket (.join call point))
    (allowed : Unhurried order getRallyArmyMax s (.resume (.join call point) answer)) :
    Sound getRallyArmyMax ticket s (resumeJoin order getRallyArmyMax answer ticket call point s) := by
  cases point with
  | queued =>
    simp only [resumeJoin,wake]
    split
    · rename_i inside
      exact joinRally_sound manned inside
    · exact sound_some manned trivial
  | max team =>
    simp only [resumeJoin]
    split
    · exact sound_unlock manned relied.1
    · refine joinCounts_sound manned relied.1 relied.2 (.refl _) ?_
      intro _
      rw [totalOf_nil]
  | count count member armyIndex =>
    obtain ⟨inside,leads,earlier,covers⟩ := relied
    simp only [resumeJoin]
    split
    · exact sound_unlock manned inside
    · refine joinCounts_sound manned inside leads earlier ?_
      intro still
      obtain ⟨counted,only⟩ := covers still
      exact le_trans (totalOf_cons only) (Nat.add_le_add_right counted _)
  | announce team arrivalTime =>
    simp only [resumeJoin]
    split
    · exact sound_unlock manned relied.1
    · have later : Calm ticket s (s.modify team (fun info => {info with rallyWaitTime:=Nat.max info.rallyWaitTime arrivalTime})) :=
        modify_calm rfl (fun _ _ mem => mem)
      exact (sound_unlock (later.manned manned (fun _ _ differs => absurd rfl differs)) relied.1).after later rfl
  | march team before =>
    obtain ⟨inside,leads,earlier,fits⟩ := relied
    obtain ⟨free,chosen,still⟩ := allowed
    have creates : Calm ticket s (joinCreates call answer s) := creates_calm free
    have created := creates.manned manned (fun other _ differs => absurd (joinCreates_since other) differs)
    have inside : (joinCreates call answer s).rallyLock.Inside call.rid ticket := by
      rw [joinCreates_rallyLock]
      exact inside
    have leave := (sound_unlock created inside).after creates joinCreates_rallyLock
    simp only [resumeJoin]
    split
    · rename_i armyIndex arrivalTime army arrival
      split
      · exact leave
      · have fit := fits (still (by rw [arrival]; exact Option.some_ne_none _))
        have total : (joinCreates call answer s).total team ≤ s.total team := (creates.shrinks team leads.1 (joinCreates_since team)).total
        have room := Nat.add_le_add total (joinCreates_soldiers army chosen)
        exact (admitJoin_sound created inside (creates.leads leads) (room.trans fit) arrivalTime answer.objectIndex).after creates joinCreates_rallyLock
    · exact leave

theorem arrives_sound (manned : Manned getRallyArmyMax s) (found : s.rallyTeamInfo.lookup (guildId,call.rid) = some team)
    (size : s.soldiers call.reinforceRid call.armyIndex ≤ armyCount) (fits : s.total team+armyCount ≤ getRallyArmyMax team) :
    Sound getRallyArmyMax ticket s (reinforceArrives call guildId s) := by
  unfold reinforceArrives
  rw [found]
  dsimp only
  have admits : Calm ticket s (admitReinforce team call.reinforceRid call.armyIndex s) := reinforce_calm _ _ _
  have more : (admitReinforce team call.reinforceRid call.armyIndex s).total team ≤
    s.total team+s.soldiers call.reinforceRid call.armyIndex := admit_total rfl
  refine ⟨admits,admits.manned manned ?_,?_⟩
  · intro other _ differs
    by_cases same : other = team
    · subst same
      omega
    · exact absurd (since_other _ _ _ same) differs
  · intro task mem
    cases mem
    trivial

theorem reinforceCounts_sound (manned : Manned getRallyArmyMax s) (found : s.rallyTeamInfo.lookup (guildId,call.rid) = some count.team)
    (earlier : Earlier count.since (since count.team s)) (size : s.soldiers call.reinforceRid call.armyIndex ≤ armyCount)
    (counted : since count.team s = count.since → s.totalOf count.team count.seen ≤ count.sum)
    (current : battleing = false → nextMember order count.seen (s.teams count.team).rallyArmy = none →
      count.sum+armyCount ≤ getRallyArmyMax count.team → since count.team s = count.since) :
    Sound getRallyArmyMax ticket s (reinforceCounts order getRallyArmyMax call guildId armyCount battleing count s) := by
  unfold reinforceCounts
  split
  · rename_i member armyIndex next
    refine sound_some manned ⟨found,earlier,?_⟩
    intro still
    refine ⟨counted still,?_⟩
    intro other there
    rw [nextMember_some next] at there
    exact (Option.some.inj there).symm
  · rename_i ended
    have all := total_counted ended
    split
    · rename_i room
      split
      · refine sound_some manned ⟨found,earlier,?_⟩
        intro still
        have known := counted still
        omega
      · rename_i calm
        have known := counted (current (Bool.eq_false_iff.mpr calm) ended room)
        exact arrives_sound manned found size (by omega)
    · exact sound_none manned (.refl _ _) (fun _ => rfl)

theorem reinforce_sound (manned : Manned getRallyArmyMax s) (relied : capacityRelies getRallyArmyMax s ticket (.reinforce call point))
    (allowed : Unhurried order getRallyArmyMax s (.resume (.reinforce call point) answer)) :
    Sound getRallyArmyMax ticket s (resumeReinforce order getRallyArmyMax answer call point s) := by
  have stop : Sound getRallyArmyMax ticket s (s,none) := sound_none manned (.refl _ _) (fun _ => rfl)
  unfold resumeReinforce
  split
  · exact stop
  · cases point with
    | guild =>
      dsimp only
      split
      · exact stop
      · split
        · exact sound_some manned trivial
        · exact stop
    | army guildId =>
      dsimp only
      split
      · exact stop
      · rename_i team found
        exact sound_some manned found
    | max guildId team armyCount battleing =>
      refine reinforceCounts_sound manned relied (.refl _) allowed ?_ (fun _ _ _ => rfl)
      intro _
      rw [totalOf_nil]
    | count guildId armyCount battleing count member armyIndex =>
      obtain ⟨found,earlier,covers⟩ := relied
      obtain ⟨size,current⟩ := allowed
      refine reinforceCounts_sound manned found earlier size ?_ (fun calm ended room => current ⟨calm,ended,room⟩)
      intro still
      obtain ⟨counted,only⟩ := covers still
      exact le_trans (totalOf_cons only) (Nat.add_le_add_right counted _)
    | exitBattle guildId team armyCount before =>
      obtain ⟨found,_,fits⟩ := relied
      exact arrives_sound manned found allowed.1 (fits allowed.2)
    | notify => exact stop

theorem exit_sound (manned : Manned getRallyArmyMax s) (relied : capacityRelies getRallyArmyMax s ticket (.exit call point)) :
    Sound getRallyArmyMax ticket s (resumeExit order answer call point s) := by
  have stop : Sound getRallyArmyMax ticket s (s,none) := sound_none manned (.refl _ _) (fun _ => rfl)
  unfold resumeExit
  split
  · exact stop
  · cases point with
    | guild =>
      dsimp only
      split
      · exact stop
      · rename_i team found
        split
        · exact sound_some manned (manned.known _ _ team found).1
        · exact stop
    | refund guildId team =>
      dsimp only
      split
      · exact sound_some manned relied
      · split
        · exact stop
        · exact sound_some manned trivial
    | leave guildId team armyIndex =>
      have leaves : Calm ticket s (leaveTeam order team call.exitRid armyIndex s) := leave_calm _ _ _
      have quiet (other : Nat) : since other (leaveTeam order team call.exitRid armyIndex s) = since other s := by
        by_cases same : other = team
        · subst same
          simp only [since,leaveTeam,release,State.note_self]
          rfl
        · unfold leaveTeam release
          exact since_other _ _ _ same
      refine ⟨leaves,leaves.manned manned (fun other _ differs => absurd (quiet other) differs),?_⟩
      intro task mem
      cases mem
      trivial
    | sync guildId =>
      dsimp only
      split
      · exact stop
      · split
        · exact stop
        · exact sound_none manned (modify_calm rfl (fun _ _ mem => mem)) (fun _ => rfl)

theorem capacity_kept : KeepsApart (enter order) (resume order getRallyArmyMax) (Unhurried order getRallyArmyMax)
    (Manned getRallyArmyMax) (capacityRelies getRallyArmyMax) := by
  have entering (s : State) (ticket : Nat) (request : Request) (manned : Manned getRallyArmyMax s)
      (allowed : Unhurried order getRallyArmyMax s (.call request)) : Sound getRallyArmyMax ticket s (enter order request ticket s) := by
    cases request with
    | joinRallyTeam call =>
      have locks : Calm ticket s (s.lock call.rid ticket) := lock_calm _ _
      have locked := locks.manned manned (fun _ _ differs => absurd rfl differs)
      have inner : Sound getRallyArmyMax ticket (s.lock call.rid ticket) (enter order (.joinRallyTeam call) ticket s) := by
        simp only [enter,wake]
        split
        · rename_i inside
          exact joinRally_sound locked inside
        · exact sound_some locked trivial
      have quiet : (enter order (.joinRallyTeam call) ticket s).1.history = s.history := by
        simp only [enter,wake,joinRally]
        repeat' split
        all_goals rfl
      refine ⟨locks.trans inner.calm ?_,inner.manned,inner.next⟩
      intro team differs
      rw [quiet] at differs
      exact absurd rfl differs
    | reinforceArrivalCallback call => exact sound_some manned trivial
    | exitRallyTeam call => exact sound_some manned trivial
    | armyLoses rid armyIndex count => exact sound_none manned (army_calm _ (fun _ _ _ => Nat.sub_le _ _)) (fun _ => rfl)
    | newRallyTeam | disbandRallyArmy | dispatchRallyTimer => exact allowed.elim
  have resuming (s : State) (ticket : Nat) (task : Task) (answer : Answer) (manned : Manned getRallyArmyMax s)
      (relied : capacityRelies getRallyArmyMax s ticket task) (allowed : Unhurried order getRallyArmyMax s (.resume task answer)) :
      Sound getRallyArmyMax ticket s (resume order getRallyArmyMax answer ticket task s) := by
    cases task with
    | join call point => exact join_sound manned relied allowed
    | reinforce call point => exact reinforce_sound manned relied allowed
    | exit call point => exact exit_sound manned relied
    | launch | disband | visit => exact relied.elim
  exact {
    entered := fun s ticket request manned allowed =>
      let sound := entering s ticket request manned allowed
      ⟨sound.manned,sound.next⟩
    resumed := fun s ticket task answer manned relied allowed =>
      let sound := resuming s ticket task answer manned relied allowed
      ⟨sound.manned,sound.next⟩
    beside_entered := fun s ticket request _ _ manned allowed relied apart =>
      (entering s ticket request manned allowed).calm.beside manned apart relied
    beside_resumed := fun s ticket task answer _ _ manned relied allowed beside apart =>
      (resuming s ticket task answer manned relied allowed).calm.beside manned apart beside }

theorem capacity_holds {start last : Service (Ticketed State) (Numbered Task)}
    (path : Runs (Guarded (Acts order getRallyArmyMax) (Allowed (numbered (Unhurried order getRallyArmyMax)))) start events last)
    (idle : start.waiting = []) (begins : Manned getRallyArmyMax start.shared.state) :
    ∀ team < last.shared.state.made, last.shared.state.total team ≤ getRallyArmyMax team :=
  (capacity_kept.run path idle begins).1.fits

instance (s : State) (armyCount : Nat) (battleing : Bool) (count : Count) (member armyIndex : Nat) :
    Decidable (ArrivesAt order getRallyArmyMax s armyCount battleing count member armyIndex) := inferInstanceAs (Decidable (_ ∧ _))

instance (s : State) : (event : Event Request Task Answer) → Decidable (Unhurried order getRallyArmyMax s event)
  | .call (.joinRallyTeam _) | .call (.reinforceArrivalCallback _) | .call (.exitRallyTeam _) | .call (.armyLoses _ _ _) => isTrue trivial
  | .call (.newRallyTeam _) | .call (.disbandRallyArmy _) | .call (.dispatchRallyTimer _) => isFalse id
  | .resume (.join call (.march team since)) answer => inferInstanceAs (Decidable (
      (call.armyIndex = none → ∀ armyIndex ∈ answer.armyIndex, ∀ other < s.made,
        (s.teams other).rallyArmy.lookup call.rallyRid ≠ some armyIndex) ∧
      (∀ armyIndex ∈ call.armyIndex, s.soldiers call.rallyRid armyIndex ≤ call.soldierSum) ∧
      (answer.arrivalTime ≠ none → (s.history team).reinforced = since.2)))
  | .resume (.reinforce call (.max _ _ armyCount _)) _ =>
    inferInstanceAs (Decidable (s.soldiers call.reinforceRid call.armyIndex ≤ armyCount))
  | .resume (.reinforce call (.count _ armyCount battleing count member armyIndex)) _ => inferInstanceAs (Decidable (
      s.soldiers call.reinforceRid call.armyIndex ≤ armyCount ∧
      (ArrivesAt order getRallyArmyMax s armyCount battleing count member armyIndex → RallyMgr.since count.team s = count.since)))
  | .resume (.reinforce call (.exitBattle _ team armyCount since)) _ => inferInstanceAs (Decidable (
      s.soldiers call.reinforceRid call.armyIndex ≤ armyCount ∧ RallyMgr.since team s = since))
  | .resume (.join _ .queued) _ | .resume (.join _ (.max _)) _ | .resume (.join _ (.count _ _ _)) _ | .resume (.join _ (.announce _ _)) _ =>
    isTrue trivial
  | .resume (.reinforce _ .guild) _ | .resume (.reinforce _ (.army _)) _ | .resume (.reinforce _ .notify) _ => isTrue trivial
  | .resume (.launch _ _) _ | .resume (.disband _ _) _ | .resume (.exit _ _) _ | .resume (.visit _ _) _ => isTrue trivial

end Capacity

-- A leader with 50 of at most 100, and two reinforcements of 40 under way.
def gathered : Service (Ticketed State) (Numbered Task) := ⟨⟨0,{State.empty with
  teams:=fun _ => ⟨7,10,60,60,0,0,AList.insert 7 1 ∅,∅,AList.insert 8 1 (AList.insert 9 1 ∅)⟩,
  history:=fun _ => ⟨4,1,0,0,[],[],∅,false,false,false⟩,
  made:=1,
  rallyTeamInfo:=AList.insert (4,7) 0 ∅,
  soldiers:=fun rid _ => if rid = 7 then 50 else 40}⟩,[]⟩

def asked (battleing : Bool) : Answer := ⟨false,battleing,4,none,none,0,0,[]⟩

-- Both arrive in a battle that the other leaves meanwhile.
theorem reinforcements_overlap : ∃ events last, Runs (Acts .stored (fun _ => 100)) gathered events last ∧
    last.waiting = [] ∧ last.shared.state.total 0 = 130 := by
  apply play_unguarded [.call (.reinforceArrivalCallback ⟨7,8,1⟩),.call (.reinforceArrivalCallback ⟨7,9,1⟩),
    .resume 0 (asked true),.resume 0 (asked true),.resume 0 (asked true),.resume 0 (asked true),
    .resume 1 (asked true),.resume 1 (asked true),.resume 1 (asked true),.resume 1 (asked true),
    .resume 0 (asked true),.resume 1 (asked true),.resume 0 (asked true),.resume 0 (asked true)] gathered
  decide

-- One reinforcement is let in, the other and a join of 30 are refused, a join of 10 is not.
theorem gathering_fits : ∃ events last, Runs (Guarded (Acts .stored (fun _ => 100)) (Allowed (numbered (Unhurried .stored (fun _ => 100)))))
    gathered events last ∧ (last.waiting = [] ∧ last.shared.state.made = 1 ∧ last.shared.state.total 0 = 100) ∧
    last.shared.state.total 0 ≤ 100 := by
  have played : ∃ events last, Runs (Guarded (Acts .stored (fun _ => 100)) (Allowed (numbered (Unhurried .stored (fun _ => 100)))))
      gathered events last ∧ last.waiting = [] ∧ last.shared.state.made = 1 ∧ last.shared.state.total 0 = 100 := by
    apply play_reaches (fun s event => decide (numbered (Unhurried .stored (fun _ => 100)) s event)) (fun _ _ passed => of_decide_eq_true passed)
      [.call (.reinforceArrivalCallback ⟨7,8,1⟩),.resume 0 (asked true),.resume 0 (asked true),.resume 0 (asked true),.resume 0 (asked true),
        .resume 0 (asked true),.resume 0 (asked true),
        .call (.reinforceArrivalCallback ⟨7,9,1⟩),.resume 0 (asked true),.resume 0 (asked true),.resume 0 (asked true),.resume 0 (asked true),
        .resume 0 (asked true),
        .call (.joinRallyTeam ⟨4,7,5,none,30⟩),.resume 0 (asked true),.resume 0 (asked true),.resume 0 (asked true),
        .call (.joinRallyTeam ⟨4,7,5,none,10⟩),.resume 0 (asked true),.resume 0 (asked true),.resume 0 (asked true),
        .resume 0 {asked true with armyIndex:=some 2, arrivalTime:=some 70},.resume 0 (asked true)] gathered
    decide
  obtain ⟨events,last,path,reached⟩ := played
  have begins : Manned (fun _ => 100) gathered.shared.state := by
    refine ⟨?_,?_⟩
    · intro team low
      have zero : team = 0 := Nat.lt_one_iff.mp low
      subst zero
      decide
    · intro guildId rid team mem
      obtain ⟨same,rfl⟩ := Table.lookup_only mem
      cases same
      decide
  exact ⟨events,last,path,reached,capacity_holds path rfl begins 0 (by rw [reached.2.1]; exact Nat.zero_lt_one)⟩

end OriginGame.RallyMgr
