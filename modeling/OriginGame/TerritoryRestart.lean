import OriginGame.TerritoryClaims

namespace OriginGame.Territory

abbrev BuildKey := GuildId × BuildIndex

def Claim.key (claim : Claim) : BuildKey := (claim.guildId,claim.buildIndex)

-- Where a building is: no tile twice, and the tile it stands on.
structure Site where
  territoryIds : List TerritoryId
  distinct : territoryIds.Nodup
  center : TerritoryId

structure Build where
  createTime : Int
  site : Site
  building : Bool

def Build.claim (build : Build) (key : BuildKey) : Claim := ⟨key.1,key.2,build.createTime⟩

-- TerritoryMgr and the buildings there are.
structure History where
  mgr : State
  builds : Table BuildKey Build

-- getGuildBuild; no call asks for a building that is gone.
def buildInfo (builds : Table BuildKey Build) (key : BuildKey) : BuildInfo :=
  match builds.lookup key with
  | some build => ⟨build.site.center,build.building⟩
  | none => ⟨0,true⟩

inductive Event where
  | place (key : BuildKey) (createTime : Int) (site : Site)
  | finish (key : BuildKey)
  | remove (key : BuildKey) (disbandGuild : Bool) (order : Order GuildId)

abbrev Search := GuildId → Finset TerritoryId → TerritoryId → Bool

def envOf (builds : Table BuildKey Build) (findPath : Search) : Env := ⟨fun guildId buildIndex => buildInfo builds (guildId,buildIndex),findPath⟩

-- createGuildBuild, buildFinishCallBack and removeGuildBuild: a new building has a new index, a
-- building is finished once, and its record goes before its tiles.
def History.next (h : History) (findPath : Search) : Event → Option History
  | .place key createTime site =>
    if (h.builds.lookup key).isSome then none
    else
      let build : Build := ⟨createTime,site,true⟩
      let placed := preOccupyTerritory (envOf h.builds findPath) h.mgr (build.claim key) site.territoryIds (some site.center) false
      some (if placed.2 then ⟨placed.1,h.builds.insert key build⟩ else ⟨placed.1,h.builds⟩)
  | .finish key =>
    match h.builds.lookup key with
    | none => none
    | some build =>
      if build.building then
        some ⟨occupyTerritory (envOf h.builds findPath) h.mgr (build.claim key) build.site.territoryIds false (some build.site.center),
          h.builds.insert key {build with building:=false}⟩
      else none
  | .remove key disbandGuild order =>
    match h.builds.lookup key with
    | none => none
    | some build =>
      some ⟨delTerritories (envOf (h.builds.erase key) findPath) h.mgr key.1 key.2 build.site.territoryIds disbandGuild order,h.builds.erase key⟩

def founded : History := ⟨vacant,∅⟩

def HistorySteps (h : History) (label : Search × Event) (t : History) : Prop := h.next label.1 label.2 = some t

-- A building read back at the start.
def restore (env : Env) (s : State) (key : BuildKey) (build : Build) : State :=
  if build.building then (preOccupyTerritory env s (build.claim key) build.site.territoryIds none true).1
  else occupyTerritory env s (build.claim key) build.site.territoryIds true none

def restoreOne (builds : Table BuildKey Build) (env : Env) (s : State) (key : BuildKey) : State :=
  match builds.lookup key with
  | some build => restore env s key build
  | none => s

-- A fresh TerritoryMgr, given every building in some order and then sorted.
def rebuild (builds : Table BuildKey Build) (findPath : Search) (order : Order BuildKey) (sorting : Sorting earlier)
    (visited : List TerritoryId) (guilds : Order GuildId) : State :=
  let env := envOf builds findPath
  sortTerritories env ((order.visit builds.keys).foldl (restoreOne builds env) vacant) sorting visited guilds

section order
variable {first second : Claim}

theorem notEarlier_iff : earlier second first = false ↔
    first.occupyTime < second.occupyTime ∨ (first.occupyTime = second.occupyTime ∧ first.guildId ≤ second.guildId) := by
  unfold earlier
  by_cases same : second.occupyTime = first.occupyTime
  · rw [if_pos same,decide_eq_false_iff_not,not_lt]
    constructor
    · exact fun guild => .inr ⟨same.symm,guild⟩
    · rintro (before | both)
      · exact absurd same.symm before.ne
      · exact both.2
  · rw [if_neg same,decide_eq_false_iff_not,not_lt]
    constructor
    · exact fun before => .inl (before.lt_of_ne (Ne.symm same))
    · rintro (before | both)
      · exact before.le
      · exact absurd both.1.symm same

theorem earlier_tie (no : earlier first second = false) (nor : earlier second first = false) : first.guildId = second.guildId := by
  rw [notEarlier_iff] at no nor
  rcases no with before | ⟨same,low⟩
  · rcases nor with after | ⟨equal,_⟩
    · exact absurd after (lt_asymm before)
    · exact absurd equal.symm before.ne
  · rcases nor with after | ⟨_,high⟩
    · exact absurd same.symm after.ne
    · exact le_antisymm high low

-- Two orders of the same claims begin with the same guild.
theorem first_guild (same : ∀ claim, claim ∈ first::left ↔ claim ∈ second::right)
    (sorted : (first::left).Pairwise (fun one other => earlier other one = false))
    (ordered : (second::right).Pairwise (fun one other => earlier other one = false)) : first.guildId = second.guildId := by
  rcases List.mem_cons.mp ((same first).mp List.mem_cons_self) with equal | inside
  · rw [equal]
  · rcases List.mem_cons.mp ((same second).mpr List.mem_cons_self) with equal | there
    · rw [equal]
    · exact earlier_tie ((List.pairwise_cons.mp ordered).1 first inside) ((List.pairwise_cons.mp sorted).1 second there)

end order

section tiles
variable {builds : Table BuildKey Build} {id : TerritoryId} {list : List Claim} {holder : Option BuildKey} {key : BuildKey} {build : Build}

-- A building has a claim to a tile if it is in its site.
def Claims (builds : Table BuildKey Build) (id : TerritoryId) (key : BuildKey) (build : Build) : Prop :=
  builds.lookup key = some build ∧ id ∈ build.site.territoryIds

-- The claims to a tile are those of the buildings, in order; who stands on it is of the guild of
-- the first; the tile is that guild's as soon as one of its buildings is finished.
structure TileSound (builds : Table BuildKey Build) (id : TerritoryId) (list : List Claim) (holder : Option BuildKey) : Prop where
  known : ∀ claim, claim ∈ list ↔ ∃ build, Claims builds id claim.key build ∧ claim = build.claim claim.key
  once : (list.map Claim.key).Nodup
  ordered : list.Pairwise (fun first second => earlier second first = false)
  standing : ∀ first ∈ list.head?, ∀ claim ∈ list, (buildInfo builds claim.key).territoryId = id → claim.guildId = first.guildId
  free : holder = none → ∀ first ∈ list.head?, ∀ claim ∈ list, claim.guildId = first.guildId → (buildInfo builds claim.key).building = true
  held : ∀ key ∈ holder, (buildInfo builds key).building = false ∧ ∃ first ∈ list.head?, key.1 = first.guildId ∧ ∃ claim ∈ list, claim.key = key

-- A tile that was refused to no guild was free or the guild's.
theorem TileSound.leads (sound : TileSound builds id list holder) (inside : list.head? = some first) (held : holder = some key) : key.1 = first.guildId := by
  obtain ⟨_,other,there,same,_⟩ := sound.held key held
  rw [inside] at there
  cases there
  exact same

-- With the building on the tile of the first claim's guild, the first claim is chosen.
theorem chooseClaim_first (env : Env) (standing : ∀ claim ∈ occupy, (env.buildOf claim).territoryId = id → claim.guildId = first.guildId) :
    chooseClaim env id first occupy = first := by
  unfold chooseClaim
  cases found : occupy.find? (fun claim => (env.buildOf claim).territoryId == id) with
  | none => rfl
  | some claim =>
    have its : ((env.buildOf claim).territoryId == id) = true := List.find?_some (p:=fun claim => (env.buildOf claim).territoryId == id) found
    exact if_pos (standing claim (List.mem_of_find?_eq_some found) (beq_iff_eq.mp its))

-- A finished building of the guild is found whenever there is one.
theorem chooseBuild_first (env : Env) (inside : first ∈ occupy) :
    (env.getGuildBuild first.guildId (chooseBuild env first first occupy)).building = false ↔
      ∃ claim ∈ occupy, claim.guildId = first.guildId ∧ (env.buildOf claim).building = false := by
  unfold chooseBuild
  by_cases building : (env.buildOf first).building = true
  · rw [if_pos building]
    cases found : occupy.find? (fun other => other.guildId == first.guildId && !(env.buildOf other).building) with
    | none =>
      rw [List.find?_eq_none] at found
      have started : (env.getGuildBuild first.guildId first.buildIndex).building = true := building
      simp only [Option.map_none,Option.getD_none,started,Bool.true_eq_false,false_iff]
      rintro ⟨claim,there,same,finished⟩
      exact found claim there (by simp [same,finished])
    | some other =>
      have its := List.find?_some (p:=fun other : Claim => other.guildId == first.guildId && !(env.buildOf other).building) found
      rw [Bool.and_eq_true,beq_iff_eq,Bool.not_eq_true'] at its
      have finished : (env.getGuildBuild first.guildId other.buildIndex).building = false := its.1 ▸ its.2
      simp only [Option.map_some,Option.getD_some,finished,true_iff]
      exact ⟨other,List.mem_of_find?_eq_some found,its⟩
  · rw [if_neg building]
    have finished : (env.getGuildBuild first.guildId first.buildIndex).building = false := Bool.eq_false_iff.mpr building
    simp only [finished,true_iff]
    exact ⟨first,inside,rfl,finished⟩

-- What the sort settles is what the live tile has.
theorem settled_owner (findPath : Search) (sorting : Sorting earlier) (sound : TileSound builds id list holder)
    (same : ∀ claim, claim ∈ restored ↔ claim ∈ list) :
    ((sortOne (envOf builds findPath) sorting id ⟨restored,none⟩).1.occupied).map Prod.fst = holder.map Prod.fst := by
  have members : ∀ claim, claim ∈ sorting.sort restored ↔ claim ∈ list := by
    intro claim
    rw [(sorting.perm restored).mem_iff]
    exact same claim
  have ordered := sorting.sorted restored
  unfold sortOne
  cases sorted : sorting.sort restored with
  | nil =>
    have empty : list = [] := by
      apply List.eq_nil_iff_forall_not_mem.mpr
      intro claim inside
      rw [← members,sorted] at inside
      cases inside
    cases held : holder with
    | none => rfl
    | some key =>
      obtain ⟨_,first,there,_⟩ := sound.held key held
      rw [empty] at there
      cases there
  | cons first rest =>
    rw [sorted] at members ordered
    obtain ⟨head,tail,live⟩ : ∃ head tail, list = head::tail := by
      cases live : list with
      | nil =>
        have inside := (members first).mp List.mem_cons_self
        rw [live] at inside
        cases inside
      | cons head tail => exact ⟨head,tail,rfl⟩
    have guild : first.guildId = head.guildId := by
      have known := sound.ordered
      rw [live] at known
      exact first_guild (live ▸ members) ordered known
    have inside : head ∈ list.head? := by
      rw [live]
      rfl
    have chosen : chooseClaim (envOf builds findPath) id first (first::rest) = first := by
      apply chooseClaim_first
      intro claim there stands
      rw [guild]
      exact sound.standing head inside claim ((members claim).mp there) stands
    have finished := chooseBuild_first (envOf builds findPath) (List.mem_cons_self (a:=first) (l:=rest))
    simp only [chosen]
    cases held : holder with
    | none =>
      rw [if_pos]
      rw [← Bool.not_eq_false,finished]
      rintro ⟨claim,there,mine,done⟩
      have building := sound.free held head inside claim ((members claim).mp there) (mine.trans guild)
      exact Bool.false_ne_true (done.symm.trans building)
    | some key =>
      obtain ⟨done,other,there,mine,claim,listed,its⟩ := sound.held key held
      rw [Option.mem_unique there inside] at mine
      rw [if_neg]
      · rw [Option.map_some,Option.map_some,guild,mine]
      · rw [Bool.not_eq_true,finished]
        refine ⟨claim,(members claim).mpr listed,?_,?_⟩
        · rw [guild,← mine,← its]
          rfl
        · rw [← done,← its]
          rfl

end tiles

section restart
variable {builds : Table BuildKey Build} {id : TerritoryId} {env : Env} {s : State} {key : BuildKey} {build : Build}

theorem restore_owner : owner (restore env s key build).territories id = owner s.territories id := by
  unfold restore
  cases build.building with
  | true =>
    change owner (build.site.territoryIds.foldl (claimOne (build.claim key)) (s.territories,[])).1 id = _
    rw [claimAll_territories,addAll_owner]
  | false =>
    change owner (build.site.territoryIds.foldl (addClaim (build.claim key)) s.territories) id = _
    rw [addAll_owner]

theorem restore_claims : claims (restore env s key build).territories id =
    if id ∈ build.site.territoryIds then claims s.territories id++[build.claim key] else claims s.territories id := by
  unfold restore
  cases build.building with
  | true =>
    change claims (build.site.territoryIds.foldl (claimOne (build.claim key)) (s.territories,[])).1 id = _
    rw [claimAll_territories,addAll_claims build.site.distinct]
  | false =>
    change claims (build.site.territoryIds.foldl (addClaim (build.claim key)) s.territories) id = _
    rw [addAll_claims build.site.distinct]

theorem restoreAll_owner (keys : List BuildKey) : owner (keys.foldl (restoreOne builds env) s).territories id = owner s.territories id := by
  induction keys generalizing s with
  | nil => rfl
  | cons key rest ih =>
    rw [List.foldl_cons,ih,restoreOne]
    split
    · exact restore_owner
    · rfl

theorem restoreAll_claims (keys : List BuildKey) : claim ∈ claims (keys.foldl (restoreOne builds env) s).territories id ↔
    claim ∈ claims s.territories id ∨ ∃ key ∈ keys, ∃ build, Claims builds id key build ∧ claim = build.claim key := by
  induction keys generalizing s with
  | nil => simp
  | cons key rest ih =>
    have one : claim ∈ claims (restoreOne builds env s key).territories id ↔
        claim ∈ claims s.territories id ∨ ∃ build, Claims builds id key build ∧ claim = build.claim key := by
      unfold restoreOne Claims
      cases found : builds.lookup key with
      | none => simp
      | some build =>
        simp only [restore_claims,Option.some.injEq]
        by_cases inside : id ∈ build.site.territoryIds
        · simp [inside]
        · simp [inside]
    rw [List.foldl_cons,ih,one,or_assoc]
    refine or_congr_right ?_
    simp only [List.mem_cons,exists_eq_or_imp]

theorem gainers_territories (verdicts : List (TerritoryId × Verdict)) (guilds : List GuildId) :
    (guilds.foldl (fun s id => s.add env id (occupiedBy id verdicts) (preOccupiedBy id verdicts)) s).territories = s.territories := by
  induction guilds generalizing s with
  | nil => rfl
  | cons other rest ih =>
    rw [List.foldl_cons,ih]
    rfl

theorem sorted_owner (sorting : Sorting earlier) (visited : List TerritoryId) (guilds : Order GuildId) (free : owner s.territories id = none) :
    occupyGuildId (sortTerritories env s sorting visited guilds).territories id =
      ((sortOne env sorting id ⟨claims s.territories id,none⟩).1.occupied).map Prod.fst := by
  unfold sortTerritories
  simp only [gainers_territories]
  change Option.map Prod.fst ((((s.territories id).map (sortOne env sorting id)).map Prod.fst).bind TerritoryInfo.occupied) = _
  unfold owner at free
  unfold claims
  cases there : s.territories id with
  | none =>
    have empty : sorting.sort [] = [] := List.perm_nil.mp (sorting.perm [])
    simp only [Option.map_none,Option.bind_none,Option.getD_none,emptyInfo,sortOne,empty]
  | some info =>
    obtain ⟨occupy,occupied⟩ := info
    rw [there] at free
    cases free
    rfl

-- The restart gives a tile the guild it has.
theorem rebuild_owner (h : History) (sound : TileSound h.builds id (claims h.mgr.territories id) (owner h.mgr.territories id)) (findPath : Search)
    (order : Order BuildKey) (sorting : Sorting earlier) (visited : List TerritoryId) (guilds : Order GuildId) :
    occupyGuildId (rebuild h.builds findPath order sorting visited guilds).territories id = occupyGuildId h.mgr.territories id := by
  unfold rebuild
  rw [sorted_owner,settled_owner findPath sorting sound]
  · rfl
  · intro claim
    rw [restoreAll_claims,sound.known]
    constructor
    · rintro (none | ⟨key,_,build,its,rfl⟩)
      · cases none
      · exact ⟨build,its,rfl⟩
    · rintro ⟨build,its,same⟩
      refine .inr ⟨claim.key,?_,build,its,same⟩
      rw [order.mem_visit,← AList.mem_keys,← AList.lookup_isSome,its.1]
      rfl
  · rw [restoreAll_owner]
    rfl

end restart

end OriginGame.Territory
