import OriginGame.TerritoryClaims
import OriginGame.TerritorySets

namespace OriginGame.Territory

-- A tile a guild holds is the guild's in TerritoryMgr.
def OwnedBy (territories : TerritoryId → Option TerritoryInfo) (guilds : GuildId → GuildTerritory) : Prop :=
  ∀ guildId id, id ∈ (guilds guildId).held → occupyGuildId territories id = some guildId

section tiles
variable {s : State} {territories : TerritoryId → Option TerritoryInfo} {guildId : GuildId} {ids pre : List TerritoryId}

theorem add_owned (env : Env) (owned : OwnedBy territories s.guilds) (its : ∀ id ∈ ids, occupyGuildId territories id = some guildId) :
    OwnedBy territories (s.add env guildId ids pre).guilds := by
  intro other id inside
  simp only [State.add] at inside
  by_cases same : other = guildId
  · subst same
    rw [Function.update_self] at inside
    rcases held_add inside with there | new
    · exact owned other id there
    · exact its id new
  · rw [Function.update_of_ne same] at inside
    exact owned other id inside

theorem preOccupyTerritory_owned (env : Env) (owned : OwnedBy s.territories s.guilds) (claim : Claim) (tiles : List TerritoryId)
    (center : Option TerritoryId) (isInit : Bool) :
    OwnedBy (preOccupyTerritory env s claim tiles center isInit).1.territories (preOccupyTerritory env s claim tiles center isInit).1.guilds := by
  unfold preOccupyTerritory
  split
  · exact owned
  · have claimed : OwnedBy (tiles.foldl (claimOne claim) (s.territories,[])).1 s.guilds := by
      intro guildId id inside
      rw [occupyGuildId_owner,claimAll_territories,addAll_owner]
      exact owned guildId id inside
    cases isInit with
    | true => exact claimed
    | false =>
      apply add_owned env claimed
      intro id none
      cases none

theorem occupyTerritory_owned (env : Env) (owned : OwnedBy s.territories s.guilds) (claim : Claim) (tiles : List TerritoryId) (isInit : Bool)
    (center : Option TerritoryId)
    (free : isInit = false → ∀ id ∈ tiles, takes s.territories claim.guildId center id = true → ∀ other ≠ claim.guildId, id ∉ (s.guilds other).held) :
    OwnedBy (occupyTerritory env s claim tiles isInit center).territories (occupyTerritory env s claim tiles isInit center).guilds := by
  unfold occupyTerritory
  cases isInit with
  | true =>
    intro guildId id inside
    rw [if_pos rfl] at inside ⊢
    rw [occupyGuildId_owner,addAll_owner]
    exact owned guildId id inside
  | false =>
    have taken : OwnedBy (tiles.foldl (occupyOne claim.guildId claim.buildIndex center) s.territories) s.guilds := by
      intro guildId id inside
      rw [occupyGuildId_owner,occupyAll_owner]
      split
      · rename_i took
        by_cases same : guildId = claim.guildId
        · exact congrArg some same.symm
        · exact absurd inside (free rfl id took.1 took.2 guildId same)
      · exact owned guildId id inside
    simp only [Bool.false_eq_true,if_false]
    split
    · exact taken
    · apply add_owned env taken
      intro id inside
      rw [occupyGuildId_owner,occupyAll_owner,if_pos (List.mem_filter.mp inside),Option.map_some]

section removal
variable {env : Env} {buildIndex : BuildIndex} {info : TerritoryInfo} {id : TerritoryId}

-- The owner a verdict leaves.
def Verdict.owner (before : Option GuildId) : Verdict → Option GuildId
  | .kept => before
  | .occupy guildId => some guildId
  | .free | .preOccupy _ => none

theorem release_occupied : (release env guildId buildIndex id info).1.occupied.map Prod.fst =
    (release env guildId buildIndex id info).2.owner (info.occupied.map Prod.fst) := by
  unfold release
  split
  · cases successor env guildId buildIndex id info.occupy with
    | none => rfl
    | some claim =>
      by_cases building : (env.buildOf claim).building = true
      · simp only [building,if_true]
        split <;> rfl
      · simp only [building]
        rfl
  · rfl

theorem releaseAll_occupied (distinct : tiles.Nodup) (entry : (id,verdict) ∈ (releaseAll env guildId buildIndex territories tiles).2) :
    occupyGuildId (releaseAll env guildId buildIndex territories tiles).1 id =
      verdict.owner (occupyGuildId territories id) := by
  obtain ⟨info,found⟩ := releaseAll_present entry
  have once := releaseAll_once env guildId buildIndex distinct (releaseAll_mem entry) found
  unfold occupyGuildId
  rw [once.1,found,Option.bind_some,Option.bind_some,release_occupied,(once.2 verdict).mp entry]

theorem unlost_owner (entry : (id,verdict) ∈ verdicts) (stays : id ∉ lost guildId verdicts) (owner : before = some guildId) :
    verdict.owner before = some guildId := by
  rw [lost,List.mem_filterMap,not_exists] at stays
  have unlisted := stays (id,verdict)
  cases verdict with
  | kept => exact owner
  | free => exact absurd ⟨entry,rfl⟩ unlisted
  | occupy other =>
    by_cases same : other = guildId
    · exact congrArg some same
    · exact absurd ⟨entry,if_neg same⟩ unlisted
  | preOccupy other => exact absurd ⟨entry,rfl⟩ unlisted

-- What is left to the guilds before the new owners get their tiles.
theorem left_owned (owned : OwnedBy s.territories s.guilds) (distinct : tiles.Nodup)
    (single : ∀ id ∈ tiles, (s.territories id).bind TerritoryInfo.occupied = some (guildId,buildIndex) → Single (s.guilds guildId) id) :
    let released := releaseAll env guildId buildIndex s.territories tiles
    OwnedBy released.1 ({s with territories:=released.1}.delete guildId (lost guildId released.2)).guilds := by
  intro released other id inside
  simp only [State.delete] at inside
  have before : id ∈ (s.guilds other).held := by
    by_cases same : other = guildId
    · subst same
      rw [Function.update_self] at inside
      exact (delete_subset _).1 inside
    · rw [Function.update_of_ne same] at inside
      exact inside
  have owner := owned other id before
  by_cases listed : id ∈ tiles
  · obtain ⟨holder,its,rfl⟩ := Option.map_eq_some_iff.mp owner
    obtain ⟨info,found,occupied⟩ := Option.bind_eq_some_iff.mp its
    have entry := ((releaseAll_once env guildId buildIndex distinct listed found).2 _).mpr rfl
    have after := releaseAll_occupied distinct entry
    by_cases mine : holder = (guildId,buildIndex)
    · subst mine
      rw [Function.update_self] at inside
      have stays : id ∉ lost guildId released.2 := fun gone => delete_gone (single id listed its) gone inside
      exact after.trans (unlost_owner entry stays owner)
    · rw [release_kept occupied mine] at after
      exact after.trans owner
  · exact (congrArg (fun info => (info.bind TerritoryInfo.occupied).map Prod.fst) (releaseAll_other listed)).trans owner

theorem mem_occupiedBy : id ∈ occupiedBy guildId verdicts ↔ (id,.occupy guildId) ∈ verdicts := by
  unfold occupiedBy
  rw [List.mem_filterMap]
  constructor
  · rintro ⟨entry,inside,mapped⟩
    split at mapped
    · rename_i verdict
      cases mapped
      rw [← verdict]
      exact inside
    · cases mapped
  · intro inside
    exact ⟨_,inside,if_pos rfl⟩

theorem gains_owned (verdicts : List (TerritoryId × Verdict)) (disbandGuild : Bool) (guilds : List GuildId) (owned : OwnedBy territories s.guilds)
    (its : ∀ other id, (id,.occupy other) ∈ verdicts → occupyGuildId territories id = some other) :
    OwnedBy territories (guilds.foldl (fun s other =>
      if disbandGuild ∧ other = guildId then s else s.add env other (occupiedBy other verdicts) (preOccupiedBy other verdicts)) s).guilds := by
  induction guilds generalizing s with
  | nil => exact owned
  | cons other rest ih =>
    rw [List.foldl_cons]
    apply ih
    split
    · exact owned
    · exact add_owned env owned (fun id inside => its other id (mem_occupiedBy.mp inside))

theorem delTerritories_owned (owned : OwnedBy s.territories s.guilds) (distinct : tiles.Nodup)
    (single : ∀ id ∈ tiles, (s.territories id).bind TerritoryInfo.occupied = some (guildId,buildIndex) → Single (s.guilds guildId) id)
    (disbandGuild : Bool) (order : Order GuildId) :
    OwnedBy (delTerritories env s guildId buildIndex tiles disbandGuild order).territories
      (delTerritories env s guildId buildIndex tiles disbandGuild order).guilds := by
  rw [delTerritories_territories]
  apply gains_owned _ _ _ (left_owned owned distinct single)
  intro other id entry
  exact releaseAll_occupied distinct entry

end removal
end tiles

-- No tile is taken that another guild still holds; no tile is given up twice in one call,
-- nor out of both sets of the guild.
def Clear (s : State) : Label → Prop
  | .preOccupyTerritory .. => True
  | .occupyTerritory _ claim territoryIds isInit centerTerritoryId => isInit = false → ∀ id ∈ territoryIds,
    takes s.territories claim.guildId centerTerritoryId id = true → ∀ other ≠ claim.guildId, id ∉ (s.guilds other).held
  | .delTerritories _ guildId buildIndex territoryIds _ _ => territoryIds.Nodup ∧ ∀ id ∈ territoryIds,
    (s.territories id).bind TerritoryInfo.occupied = some (guildId,buildIndex) → Single (s.guilds guildId) id

def Steps (s : State) (label : Label) (t : State) : Prop := next s label = t

def Owned (s : State) : Prop := OwnedBy s.territories s.guilds

theorem next_owned {s : State} {label : Label} (owned : Owned s) (clear : Clear s label) : Owned (next s label) := by
  cases label with
  | preOccupyTerritory env claim tiles center isInit => exact preOccupyTerritory_owned env owned claim tiles center isInit
  | occupyTerritory env claim tiles isInit center => exact occupyTerritory_owned env owned claim tiles isInit center clear
  | delTerritories env guildId buildIndex tiles disbandGuild order => exact delTerritories_owned owned clear.1 clear.2 disbandGuild order

-- TerritoryMgr and the guilds agree on who has a tile.
structure Agree (s : State) (id : TerritoryId) : Prop where
  one : ∀ guildId other, id ∈ (s.guilds guildId).held → id ∈ (s.guilds other).held → guildId = other
  owner : ∀ guildId, id ∈ (s.guilds guildId).held → occupyGuildId s.territories id = some guildId
  nobody : occupyGuildId s.territories id = none → ∀ guildId, id ∉ (s.guilds guildId).held

theorem Owned.agree {s : State} (owned : Owned s) (id : TerritoryId) : Agree s id := by
  refine ⟨?_,fun guildId => owned guildId id,?_⟩
  · intro guildId other mine theirs
    exact Option.some.inj ((owned guildId id mine).symm.trans (owned other id theirs))
  · intro free guildId inside
    rw [owned guildId id inside] at free
    cases free

theorem owners_agree (path : Runs (Guarded Steps Clear) vacant labels t) (id : TerritoryId) : Agree t id := by
  have owned : Owned t := by
    refine Runs.invariant ?_ path ?_
    · rintro before label after owned ⟨rfl,clear⟩
      exact next_owned owned clear
    · intro guildId id inside
      cases inside
  exact owned.agree id

-- Every building stands on a tile of its own guild's, far from the others; no guild has a fortress.
def apart : Env := ⟨fun guildId buildIndex => ⟨100*guildId+buildIndex,false⟩,fun _ _ _ => false⟩

def placed (guildId : GuildId) (buildIndex : BuildIndex) (center : Option TerritoryId) : Label :=
  .preOccupyTerritory apart ⟨guildId,buildIndex,0⟩ [5] center false

def finished (guildId : GuildId) (buildIndex : BuildIndex) (center : Option TerritoryId) : Label :=
  .occupyTerritory apart ⟨guildId,buildIndex,0⟩ [5] false center

def succession : List Label := [placed 1 1 none,finished 1 1 none,placed 2 1 none,finished 2 1 none,.delTerritories apart 1 1 [5] false .stored]

theorem successor_agrees : 5 ∈ ((succession.foldl next vacant).guilds 2).held ∧ Agree (succession.foldl next vacant) 5 := by
  have path : Runs (Guarded Steps Clear) vacant succession (succession.foldl next vacant) := by
    refine .more ⟨rfl,trivial⟩ (.more ⟨rfl,?_⟩ (.more ⟨rfl,trivial⟩ (.more ⟨rfl,?_⟩ (.more ⟨rfl,?_⟩ .done))))
    · intro _ id _ _ other foreign inside
      change id ∈ (Function.update vacant.guilds 1 _ other).held at inside
      rw [Function.update_of_ne foreign] at inside
      cases inside
    · intro _ id listed takes
      rw [List.mem_singleton.mp listed] at takes
      exact absurd takes (by decide)
    · refine ⟨by decide,?_⟩
      intro id listed _
      rw [List.mem_singleton.mp listed,Single]
      decide
  exact ⟨by decide,owners_agree path 5⟩

-- The second building of guild 2 stands on tile 5 and is still being built.
def founding : Env := {apart with getGuildBuild:=fun guildId buildIndex =>
  if guildId = 2 ∧ buildIndex = 2 then ⟨5,true⟩ else apart.getGuildBuild guildId buildIndex}

-- Guild 1 comes to the tile when the first building of guild 2 goes, and loses it to the second.
def usurped : List Label :=
  [placed 2 1 none,placed 1 1 none,placed 2 2 (some 5),.delTerritories founding 2 1 [5] false .stored,finished 1 1 none,finished 2 2 (some 5)]

theorem usurped_tile_kept : ¬∀ labels t, Runs Steps vacant labels t → ∀ id, Agree t id := by
  intro always
  have path : Runs Steps vacant usurped (usurped.foldl next vacant) :=
    .more rfl (.more rfl (.more rfl (.more rfl (.more rfl (.more rfl .done)))))
  have same := (always usurped _ path 5).one 1 2 (by decide) (by decide)
  cases same

end OriginGame.Territory
