import OriginGame.TerritoryMgr

namespace OriginGame.Territory
variable {s : State} {env : Env} {territories : TerritoryId → Option TerritoryInfo} {claim : Claim} {guildId : GuildId} {buildIndex : BuildIndex}
  {center : Option TerritoryId} {tiles : List TerritoryId} {id : TerritoryId} {info : TerritoryInfo}

-- The claims to a tile, in their order, and the building that has it.
def claims (territories : TerritoryId → Option TerritoryInfo) (id : TerritoryId) : List Claim := ((territories id).getD emptyInfo).occupy

def owner (territories : TerritoryId → Option TerritoryInfo) (id : TerritoryId) : Option (GuildId × BuildIndex) :=
  (territories id).bind TerritoryInfo.occupied

theorem occupyGuildId_owner : occupyGuildId territories id = (owner territories id).map Prod.fst := rfl

theorem first_claim : (territories id).bind (fun info => info.occupy.head?) = (claims territories id).head? := by
  unfold claims
  cases territories id <;> rfl

theorem takes_claims : takes territories guildId center id =
    (center == some id || (claims territories id).head?.any (fun first => first.guildId == guildId)) := by
  rw [takes,first_claim]

theorem refuses_claims : refuses territories guildId id =
    match owner territories id with
    | some holder => holder.1 != guildId
    | none => (claims territories id).head?.any (fun first => first.guildId != guildId) := by
  unfold refuses owner claims
  cases territories id with
  | none => rfl
  | some info =>
    obtain ⟨occupy,occupied⟩ := info
    cases occupied <;> rfl

section claiming

theorem addClaim_owner (tile : TerritoryId) : owner (addClaim claim territories tile) id = owner territories id := by
  unfold owner addClaim
  by_cases same : id = tile
  · subst same
    rw [Function.update_self]
    cases territories id <;> rfl
  · rw [Function.update_of_ne same]

theorem addClaim_claims (tile : TerritoryId) :
    claims (addClaim claim territories tile) id = if id = tile then claims territories id++[claim] else claims territories id := by
  unfold claims addClaim
  by_cases same : id = tile
  · subst same
    rw [Function.update_self,if_pos rfl]
    rfl
  · rw [Function.update_of_ne same,if_neg same]

theorem addAll_owner (tiles : List TerritoryId) : owner (tiles.foldl (addClaim claim) territories) id = owner territories id := by
  induction tiles generalizing territories with
  | nil => rfl
  | cons tile rest ih => rw [List.foldl_cons,ih,addClaim_owner]

theorem addAll_claims (distinct : tiles.Nodup) :
    claims (tiles.foldl (addClaim claim) territories) id = if id ∈ tiles then claims territories id++[claim] else claims territories id := by
  induction tiles generalizing territories with
  | nil => rfl
  | cons tile rest ih =>
    obtain ⟨once,distinct⟩ := List.nodup_cons.mp distinct
    rw [List.foldl_cons,ih distinct,addClaim_claims]
    by_cases here : id = tile
    · subst here
      simp [once]
    · simp [here]

theorem claimAll_territories (tiles : List TerritoryId) (acc : (TerritoryId → Option TerritoryInfo) × List TerritoryId) :
    (tiles.foldl (claimOne claim) acc).1 = tiles.foldl (addClaim claim) acc.1 := by
  induction tiles generalizing acc with
  | nil => rfl
  | cons tile rest ih =>
    rw [List.foldl_cons,ih,List.foldl_cons]
    rfl

theorem preOccupyTerritory_refused (tile : TerritoryId) (refused : refuses s.territories claim.guildId tile = true) (isInit : Bool) :
    preOccupyTerritory env s claim tiles (some tile) isInit = (s,false) := if_pos refused

theorem preOccupied_territories (env : Env) (claim : Claim) (tiles : List TerritoryId) (tile : Option TerritoryId) (isInit : Bool)
    (accepted : tile.any (refuses s.territories claim.guildId) = false) :
    (preOccupyTerritory env s claim tiles tile isInit).1.territories = tiles.foldl (addClaim claim) s.territories := by
  rw [← claimAll_territories tiles (s.territories,[])]
  unfold preOccupyTerritory
  rw [if_neg (Bool.eq_false_iff.mp accepted)]
  cases isInit <;> rfl

theorem preOccupyTerritory_accepted (env : Env) (claim : Claim) (tiles : List TerritoryId) (tile : TerritoryId)
    (accepted : refuses s.territories claim.guildId tile = false) (isInit : Bool) : (preOccupyTerritory env s claim tiles (some tile) isInit).2 = true ∧
      (preOccupyTerritory env s claim tiles (some tile) isInit).1.territories = tiles.foldl (addClaim claim) s.territories := by
  refine ⟨?_,preOccupied_territories env claim tiles (some tile) isInit accepted⟩
  have refused : ¬(some tile).any (refuses s.territories claim.guildId) = true := Bool.eq_false_iff.mp accepted
  unfold preOccupyTerritory
  rw [if_neg refused]

end claiming

section taking

theorem occupyOne_claims (tile : TerritoryId) : claims (occupyOne guildId buildIndex center territories tile) id = claims territories id := by
  unfold claims occupyOne
  by_cases same : id = tile
  · subst same
    rw [Function.update_self]
    split <;> rfl
  · rw [Function.update_of_ne same]

theorem occupyOne_takes (tile : TerritoryId) :
    takes (occupyOne guildId buildIndex center territories tile) guildId center id = takes territories guildId center id := by
  rw [takes_claims,takes_claims,occupyOne_claims]

theorem occupyOne_owner (tile : TerritoryId) : owner (occupyOne guildId buildIndex center territories tile) id =
    if id = tile ∧ takes territories guildId center id = true then some (guildId,buildIndex) else owner territories id := by
  unfold occupyOne owner
  by_cases same : id = tile
  · subst same
    rw [Function.update_self]
    cases taken : takes territories guildId center id with
    | true => simp
    | false => cases territories id <;> simp [emptyInfo]
  · rw [Function.update_of_ne same,if_neg (fun both => same both.1)]

theorem occupyAll_claims (tiles : List TerritoryId) :
    claims (tiles.foldl (occupyOne guildId buildIndex center) territories) id = claims territories id := by
  induction tiles generalizing territories with
  | nil => rfl
  | cons tile rest ih => rw [List.foldl_cons,ih,occupyOne_claims]

theorem occupyAll_owner (tiles : List TerritoryId) : owner (tiles.foldl (occupyOne guildId buildIndex center) territories) id =
    if id ∈ tiles ∧ takes territories guildId center id = true then some (guildId,buildIndex) else owner territories id := by
  induction tiles generalizing territories with
  | nil => simp
  | cons tile rest ih =>
    rw [List.foldl_cons,ih,occupyOne_takes,occupyOne_owner]
    by_cases taken : takes territories guildId center id = true
    · by_cases here : id = tile
      · subst here
        simp [taken]
      · simp [taken,here]
    · simp [taken]

theorem occupyTerritory_territories (tiles : List TerritoryId) : (occupyTerritory env s claim tiles false center).territories =
    tiles.foldl (occupyOne claim.guildId claim.buildIndex center) s.territories := by
  simp only [occupyTerritory,Bool.false_eq_true,if_false]
  split <;> rfl

end taking

section removal

-- A building does not touch the owner of another building's tile.
theorem release_kept (owner : info.occupied = some holder) (other : holder ≠ (guildId,buildIndex)) :
    release env guildId buildIndex id info = ({info with occupy:=info.occupy.eraseP (fun claim => claim.by guildId buildIndex)},.kept) := by
  unfold release
  rw [if_neg]
  rw [Bool.or_eq_true,TerritoryInfo.unoccupied,owner]
  rintro (nobody | mine)
  · cases nobody
  · exact other (Option.some.inj (beq_iff_eq.mp mine))

theorem releaseAll_other (outside : id ∉ tiles) : (releaseAll env guildId buildIndex territories tiles).1 id = territories id := by
  induction tiles generalizing territories with
  | nil => rfl
  | cons tile rest ih =>
    have here : id ≠ tile := fun same => outside (same ▸ List.mem_cons_self)
    have later : id ∉ rest := fun inside => outside (List.mem_cons_of_mem _ inside)
    simp only [releaseAll]
    split
    · exact ih later
    · rw [ih later,Function.update_of_ne here]

theorem releaseAll_mem (entry : (id,verdict) ∈ (releaseAll env guildId buildIndex territories tiles).2) : id ∈ tiles := by
  induction tiles generalizing territories with
  | nil => cases entry
  | cons tile rest ih =>
    simp only [releaseAll] at entry
    split at entry
    · exact List.mem_cons_of_mem _ (ih entry)
    · rcases List.mem_cons.mp entry with same | later
      · cases same
        exact List.mem_cons_self
      · exact List.mem_cons_of_mem _ (ih later)

-- Each tile is given up once, from the claims it had before the call.
theorem releaseAll_once (env : Env) (guildId : GuildId) (buildIndex : BuildIndex) (distinct : tiles.Nodup) (inside : id ∈ tiles)
    (found : territories id = some info) :
    (releaseAll env guildId buildIndex territories tiles).1 id = some (release env guildId buildIndex id info).1 ∧
      ∀ verdict, (id,verdict) ∈ (releaseAll env guildId buildIndex territories tiles).2 ↔ verdict = (release env guildId buildIndex id info).2 := by
  induction tiles generalizing territories with
  | nil => cases inside
  | cons tile rest ih =>
    obtain ⟨once,distinct⟩ := List.nodup_cons.mp distinct
    by_cases here : id = tile
    · subst here
      simp only [releaseAll,found]
      refine ⟨?_,?_⟩
      · rw [releaseAll_other once,Function.update_self]
      · intro verdict
        rw [List.mem_cons,Prod.mk.injEq]
        refine ⟨?_,fun same => .inl ⟨rfl,same⟩⟩
        rintro (⟨-,same⟩ | later)
        · exact same
        · exact absurd (releaseAll_mem later) once
    · have later : id ∈ rest := (List.mem_cons.mp inside).resolve_left here
      simp only [releaseAll]
      split
      · exact ih distinct later found
      · rename_i other there
        have unchanged : Function.update territories tile (some (release env guildId buildIndex tile other).1) id = some info := by
          rw [Function.update_of_ne here]
          exact found
        have still := ih distinct later unchanged
        refine ⟨still.1,?_⟩
        intro verdict
        rw [List.mem_cons,Prod.mk.injEq,still.2 verdict]
        simp only [here,false_and,false_or]

theorem releaseAll_present (entry : (id,verdict) ∈ (releaseAll env guildId buildIndex territories tiles).2) : ∃ info, territories id = some info := by
  induction tiles generalizing territories with
  | nil => cases entry
  | cons tile rest ih =>
    simp only [releaseAll] at entry
    split at entry
    · exact ih entry
    · rename_i info found
      by_cases here : id = tile
      · exact ⟨info,here ▸ found⟩
      · rcases List.mem_cons.mp entry with same | later
        · exact absurd (congrArg Prod.fst same) here
        · obtain ⟨info,there⟩ := ih later
          rw [Function.update_of_ne here] at there
          exact ⟨info,there⟩

theorem gains_territories (verdicts : List (TerritoryId × Verdict)) (disbandGuild : Bool) (guilds : List GuildId) :
    (guilds.foldl (fun s other =>
      if disbandGuild ∧ other = guildId then s else s.add env other (occupiedBy other verdicts) (preOccupiedBy other verdicts)) s).territories =
      s.territories := by
  induction guilds generalizing s with
  | nil => rfl
  | cons other rest ih =>
    rw [List.foldl_cons,ih]
    split <;> rfl

theorem delTerritories_territories (tiles : List TerritoryId) (disbandGuild : Bool) (order : Order GuildId) :
    (delTerritories env s guildId buildIndex tiles disbandGuild order).territories = (releaseAll env guildId buildIndex s.territories tiles).1 := by
  unfold delTerritories
  rw [gains_territories]
  rfl

end removal
end OriginGame.Territory
