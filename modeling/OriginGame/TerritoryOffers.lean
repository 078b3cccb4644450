import OriginGame.TerritoryOrder

namespace OriginGame.Territory

-- Nobody owns the tile and nobody has a claim to it.
def Free (territories : TerritoryId → Option TerritoryInfo) (id : TerritoryId) : Prop := owner territories id = none ∧ claims territories id = []

-- What deleteOtherGuildTerritory answers: the free tiles and the guild's own among those it is asked
-- for, none of another guild, and a free tile as if it had never had a record.
structure Offers (env : Env) (s : State) (ids : List TerritoryId) (guildId : GuildId) (preOccupy : Bool) : Prop where
  free : ∀ id ∈ ids, Free s.territories id → id ∈ deleteOtherGuildTerritory env s ids guildId preOccupy
  own : ∀ id ∈ ids, occupyGuildId s.territories id = some guildId → id ∈ deleteOtherGuildTerritory env s ids guildId preOccupy
  foreign : ∀ id ∈ deleteOtherGuildTerritory env s ids guildId preOccupy, ∀ other, occupyGuildId s.territories id = some other → other = guildId
  forgotten : ∀ id ∈ ids, Free s.territories id → (id ∈ deleteOtherGuildTerritory env s ids guildId preOccupy ↔
    id ∈ deleteOtherGuildTerritory env {s with territories:=Function.update s.territories id none} ids guildId preOccupy)

-- A call that leaves a record for the tile.
def Phased.Marks (m : Phased) (id : TerritoryId) : MgrCall → Prop
  | .serve (.preOccupyTerritory _ claim territoryIds territoryId _) => territoryId.any (refuses m.mgr.territories claim.guildId) = false ∧ id ∈ territoryIds
  | .serve (.occupyTerritory _ _ territoryIds _ _) => id ∈ territoryIds
  | .serve (.delTerritories ..) => False
  | .sortTerritories .. => False

section records
variable {territories : TerritoryId → Option TerritoryInfo} {env : Env} {id : TerritoryId}

theorem fold_unrecorded {step : (TerritoryId → Option TerritoryInfo) → TerritoryId → TerritoryId → Option TerritoryInfo}
    (marks : ∀ territories tile, step territories tile id = none ↔ territories id = none ∧ id ≠ tile) (tiles : List TerritoryId) :
    tiles.foldl step territories id = none ↔ territories id = none ∧ id ∉ tiles := by
  induction tiles generalizing territories with
  | nil => exact ⟨fun gone => ⟨gone,List.not_mem_nil⟩,And.left⟩
  | cons tile rest ih =>
    rw [List.foldl_cons,ih,marks,List.mem_cons,not_or,and_assoc]

theorem update_unrecorded (tile : TerritoryId) (info : TerritoryInfo) :
    Function.update territories tile (some info) id = none ↔ territories id = none ∧ id ≠ tile := by
  by_cases here : id = tile
  · subst here
    rw [Function.update_self]
    exact ⟨fun gone => (by cases gone),fun both => absurd rfl both.2⟩
  · rw [Function.update_of_ne here]
    exact ⟨fun gone => ⟨gone,here⟩,And.left⟩

theorem releaseAll_unrecorded (guildId : GuildId) (buildIndex : BuildIndex) (tiles : List TerritoryId) :
    (releaseAll env guildId buildIndex territories tiles).1 id = none ↔ territories id = none := by
  induction tiles generalizing territories with
  | nil => exact Iff.rfl
  | cons tile rest ih =>
    simp only [releaseAll]
    split
    · exact ih
    · rename_i info found
      rw [ih,update_unrecorded]
      refine ⟨And.left,fun gone => ⟨gone,?_⟩⟩
      rintro rfl
      rw [gone] at found
      cases found

theorem next_unrecorded (m : Phased) (call : MgrCall) :
    (m.next call).mgr.territories id = none ↔ m.mgr.territories id = none ∧ ¬ m.Marks id call := by
  cases call with
  | sortTerritories env sorting visited order =>
    change (sortTerritories env m.mgr sorting visited order).territories id = none ↔ _
    rw [sortTerritories_at,Option.map_eq_none_iff]
    exact ⟨fun gone => ⟨gone,fun none_ => none_⟩,And.left⟩
  | serve label =>
    cases label with
    | preOccupyTerritory env claim tiles tile isInit =>
      change (preOccupyTerritory env m.mgr claim tiles tile isInit).1.territories id = none ↔ _ ∧ ¬ (_ ∧ _)
      cases refused : tile.any (refuses m.mgr.territories claim.guildId) with
      | true =>
        unfold preOccupyTerritory
        rw [if_pos refused]
        exact ⟨fun gone => ⟨gone,fun both => Bool.noConfusion both.1⟩,And.left⟩
      | false =>
        rw [preOccupied_territories env claim tiles tile isInit refused]
        refine (fold_unrecorded (fun _ tile => update_unrecorded tile _) tiles).trans ?_
        exact and_congr_right' (not_congr ⟨fun inside => ⟨rfl,inside⟩,And.right⟩)
    | occupyTerritory env claim tiles isInit center =>
      change (occupyTerritory env m.mgr claim tiles isInit center).territories id = none ↔ _ ∧ ¬ id ∈ tiles
      cases isInit with
      | true => exact fold_unrecorded (fun _ tile => update_unrecorded tile _) tiles
      | false =>
        rw [occupyTerritory_territories]
        exact fold_unrecorded (fun _ tile => update_unrecorded tile _) tiles
    | delTerritories env guildId buildIndex tiles disbandGuild order =>
      change (delTerritories env m.mgr guildId buildIndex tiles disbandGuild order).territories id = none ↔ _
      rw [delTerritories_territories,releaseAll_unrecorded]
      exact ⟨fun gone => ⟨gone,fun none_ => none_⟩,And.left⟩

-- A tile has no record as long as no call has left one.
theorem runs_unrecorded (m : Phased) (calls : List MgrCall) :
    (calls.foldl Phased.next m).mgr.territories id = none ↔
      m.mgr.territories id = none ∧ Runs.Passes Phased.next (fun m call => ¬ m.Marks id call) m calls := by
  induction calls generalizing m with
  | nil => exact ⟨fun gone => ⟨gone,trivial⟩,And.left⟩
  | cons call rest ih =>
    rw [List.foldl_cons,ih,next_unrecorded,and_assoc]
    rfl

end records

section answers
variable {env : Env} {s : State} {ids : List TerritoryId} {guildId : GuildId} {preOccupy : Bool} {id : TerritoryId}
  {territories : TerritoryId → Option TerritoryInfo}

theorem offers_free (free : Free territories id) : offers env territories guildId preOccupy id = true ↔ preOccupy = true ∨ territories id = none := by
  unfold offers
  cases found : territories id with
  | none => exact ⟨fun _ => .inr rfl,fun _ => rfl⟩
  | some info =>
    obtain ⟨unowned,unclaimed⟩ := free
    unfold owner at unowned
    unfold claims at unclaimed
    rw [found] at unowned unclaimed
    change info.occupied = none at unowned
    change info.occupy = [] at unclaimed
    dsimp only
    rw [TerritoryInfo.unoccupied,unowned,unclaimed]
    cases preOccupy with
    | true => exact ⟨fun _ => .inl rfl,fun _ => rfl⟩
    | false =>
      constructor
      · intro no
        cases no
      · rintro (no | no) <;> cases no

theorem offers_owned {other : GuildId} (owned : occupyGuildId territories id = some other) :
    offers env territories guildId preOccupy id = true ↔ other = guildId := by
  unfold offers
  unfold occupyGuildId at owned
  cases found : territories id with
  | none =>
    rw [found] at owned
    cases owned
  | some info =>
    rw [found,Option.bind_some,Option.map_eq_some_iff] at owned
    obtain ⟨holder,owns,rfl⟩ := owned
    dsimp only
    rw [TerritoryInfo.unoccupied,owns,if_neg (by exact Bool.false_ne_true),Option.any_some,beq_iff_eq]

-- Without `_preOccupy` a free tile that has a record is not answered.
theorem offers_iff : Offers env s ids guildId preOccupy ↔ preOccupy = true ∨ ∀ id ∈ ids, Free s.territories id → s.territories id = none := by
  constructor
  · intro answered
    by_cases flag : preOccupy = true
    · exact .inl flag
    · refine .inr (fun id mem free => ?_)
      have there := (List.mem_filter.mp (answered.free id mem free)).2
      exact ((offers_free free).mp there).resolve_left flag
  · intro fits
    have answered (id : TerritoryId) (mem : id ∈ ids) (free : Free s.territories id) : id ∈ deleteOtherGuildTerritory env s ids guildId preOccupy :=
      List.mem_filter.mpr ⟨mem,(offers_free free).mpr (fits.imp_right (fun none_ => none_ id mem free))⟩
    refine ⟨answered,?_,?_,?_⟩
    · intro id mem owned
      exact List.mem_filter.mpr ⟨mem,(offers_owned owned).mpr rfl⟩
    · intro id mem other owned
      exact (offers_owned owned).mp (List.mem_filter.mp mem).2
    · intro id mem free
      refine ⟨fun _ => List.mem_filter.mpr ⟨mem,?_⟩,fun _ => answered id mem free⟩
      unfold offers
      dsimp only
      rw [Function.update_self]

end answers

theorem free_offered (calls : List MgrCall) (env : Env) (ids : List TerritoryId) (guildId : GuildId) (preOccupy : Bool) :
    Offers env (calls.foldl Phased.next Phased.started).mgr ids guildId preOccupy ↔
      preOccupy = true ∨ ∀ id ∈ ids, Free (calls.foldl Phased.next Phased.started).mgr.territories id →
        Runs.Passes Phased.next (fun m call => ¬ m.Marks id call) Phased.started calls := by
  rw [offers_iff]
  refine or_congr_right (forall_congr' fun id => forall_congr' fun _ => forall_congr' fun _ => ?_)
  exact (runs_unrecorded Phased.started calls).trans ⟨And.right,fun unmarked => ⟨rfl,unmarked⟩⟩

section abandoned

-- A building is placed and given up again before it is done.
def abandoned : List MgrCall :=
  [.sortTerritories idle insertion [] .stored,.serve (.preOccupyTerritory idle ⟨1,1,10⟩ [5] (some 5) false),
    .serve (.delTerritories idle 1 1 [5] false .stored)]

theorem abandoned_withheld : ¬ Offers idle (abandoned.foldl Phased.next Phased.started).mgr [5,6] 2 false := by
  intro answered
  have there := answered.free 5 (by decide) ⟨by decide,by decide⟩
  exact absurd there (by decide)

end abandoned
end OriginGame.Territory
