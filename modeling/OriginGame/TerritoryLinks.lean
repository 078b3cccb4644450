import OriginGame.AStarMgr
import OriginGame.TerritoryMgr
import OriginGame.TerritorySets

namespace OriginGame.Territory

-- One guild in GuildTerritoryMgr, its walkable tiles and its fortresses that are not being built.
structure Links where
  territory : GuildTerritory
  walkable : Finset TerritoryId
  fortresses : Finset TerritoryId

-- The calls of TerritoryMgr, each after the change of the map that goes with it.
inductive Call where
  | addGuildTerritory (territoryIds preOccupyTerritoryIds : List TerritoryId)
  | guildTerritoryStatusChange (territoryIds : List TerritoryId)
  | deleteGuildTerritory (territoryIds : List TerritoryId)

-- A call and the fortresses there are when it comes.
structure LinkLabel where
  fortresses : Finset TerritoryId
  call : Call

def Links.next (map : SearchMap) (s : Links) (label : LinkLabel) : Links :=
  match label.call with
  | .addGuildTerritory territoryIds preOccupyTerritoryIds =>
    let walkable := s.walkable ∪ territoryIds.toFinset
    ⟨s.territory.addGuildTerritory (map.findPath walkable label.fortresses) territoryIds preOccupyTerritoryIds,walkable,label.fortresses⟩
  | .guildTerritoryStatusChange territoryIds =>
    ⟨s.territory.guildTerritoryStatusChange (map.findPath s.walkable label.fortresses) territoryIds,s.walkable,label.fortresses⟩
  | .deleteGuildTerritory territoryIds =>
    ⟨s.territory.deleteGuildTerritory territoryIds,s.walkable \ territoryIds.toFinset,label.fortresses⟩

def unlinked : Links := ⟨.empty,∅,∅⟩

def LinkSteps (map : SearchMap) (s : Links) (label : LinkLabel) (t : Links) : Prop := s.next map label = t

section services
variable {map : SearchMap} {s : State} {env : Env} {guildId : GuildId} {fortresses : Finset TerritoryId}

def State.links (s : State) (guildId : GuildId) (fortresses : Finset TerritoryId) : Links := ⟨s.guilds guildId,s.walkable guildId,fortresses⟩

end services

section connection
variable {map : SearchMap} {occupied fortresses : Finset TerritoryId} {id : TerritoryId}

theorem connected_mono (more : occupied ⊆ larger) (anchors : fortresses ⊆ others) (connected : map.Connected occupied fortresses id) :
    map.Connected larger others id := by
  obtain ⟨fortress,there,links⟩ := connected
  exact ⟨fortress,anchors there,Relation.ReflTransGen.mono (fun _ _ one => ⟨one.1,more one.2⟩) _ _ links⟩

-- A connection that reaches none of the new tiles does not need them.
theorem connected_without {ids : Finset TerritoryId} (none : ∀ new ∈ ids, ¬map.Connected (occupied ∪ ids) fortresses new)
    (connected : map.Connected (occupied ∪ ids) fortresses id) : map.Connected occupied fortresses id := by
  obtain ⟨fortress,there,links⟩ := connected
  refine ⟨fortress,there,?_⟩
  induction links with
  | refl => exact .refl
  | tail before one ih =>
    refine ih.tail ⟨one.1,?_⟩
    rcases Finset.mem_union.mp one.2 with old | new
    · exact old
    · exact absurd ⟨fortress,there,before.tail one⟩ (none _ new)

end connection

-- The sets are those of the connected tiles and of the others; a pre-occupied tile is not occupied.
structure Linked (map : SearchMap) (s : Links) : Prop where
  inner : ∀ id ∈ s.walkable, map.Inner id
  valid : ∀ id, id ∈ s.territory.validTerritoryIds ↔ id ∈ s.walkable ∧ map.Connected s.walkable s.fortresses id
  invalid : ∀ id, id ∈ s.territory.invalidTerritoryIds ↔ id ∈ s.walkable ∧ ¬map.Connected s.walkable s.fortresses id
  pre : ∀ id ∈ s.territory.preOccupyTerritoryIds, id ∉ s.walkable

section steps
variable {map : SearchMap} {s : Links} {fortresses : Finset TerritoryId} {ids pre : List TerritoryId}

theorem Linked.held (linked : Linked map s) (id : TerritoryId) : id ∈ s.territory.held ↔ id ∈ s.walkable := by
  rw [mem_held,linked.valid,linked.invalid,← and_or_left]
  exact and_iff_left (Classical.em _)

theorem Linked.single (linked : Linked map s) (id : TerritoryId) : Single s.territory id := by
  rintro ⟨valid,invalid⟩
  exact ((linked.invalid id).mp invalid).2 ((linked.valid id).mp valid).2

-- A status change leaves every tile it is not told of as connected as before.
theorem status_linked (linked : Linked map s) (anchored : ∀ one ∈ fortresses, map.Inner one)
    (same : ∀ id ∈ s.walkable, id ∉ ids → (map.Connected s.walkable s.fortresses id ↔ map.Connected s.walkable fortresses id)) :
    Linked map (s.next map ⟨fortresses,.guildTerritoryStatusChange ids⟩) := by
  refine ⟨linked.inner,?_,?_,?_⟩
  · intro id
    change id ∈ (s.territory.guildTerritoryStatusChange (map.findPath s.walkable fortresses) ids).validTerritoryIds ↔
      id ∈ s.walkable ∧ map.Connected s.walkable fortresses id
    rw [(status_closed ids).1,linked.held]
    split
    · exact and_congr_right (fun inside => findPath_connected linked.inner anchored (linked.inner id inside))
    · rename_i unlisted
      rw [linked.valid]
      exact and_congr_right (fun inside => same id inside unlisted)
  · intro id
    change id ∈ (s.territory.guildTerritoryStatusChange (map.findPath s.walkable fortresses) ids).invalidTerritoryIds ↔
      id ∈ s.walkable ∧ ¬map.Connected s.walkable fortresses id
    rw [(status_closed ids).2,linked.held]
    split
    · refine and_congr_right (fun inside => ?_)
      rw [← findPath_connected linked.inner anchored (linked.inner id inside),Bool.not_eq_true]
    · rename_i unlisted
      rw [linked.invalid]
      exact and_congr_right (fun inside => not_congr (same id inside unlisted))
  · intro id marked
    change id ∈ (s.territory.guildTerritoryStatusChange (map.findPath s.walkable fortresses) ids).preOccupyTerritoryIds at marked
    rw [status_pre] at marked
    exact linked.pre id marked

theorem delete_linked (linked : Linked map s)
    (same : ∀ id ∈ s.walkable, id ∉ ids →
      (map.Connected s.walkable s.fortresses id ↔ map.Connected (s.walkable \ ids.toFinset) fortresses id)) :
    Linked map (s.next map ⟨fortresses,.deleteGuildTerritory ids⟩) := by
  have remaining : ∀ id, id ∈ s.walkable \ ids.toFinset ↔ id ∈ s.walkable ∧ id ∉ ids := by
    intro id
    rw [Finset.mem_sdiff,List.mem_toFinset]
  refine ⟨?_,?_,?_,?_⟩
  · intro id inside
    exact linked.inner id ((remaining id).mp inside).1
  · intro id
    change id ∈ (s.territory.deleteGuildTerritory ids).validTerritoryIds ↔
      id ∈ s.walkable \ ids.toFinset ∧ map.Connected (s.walkable \ ids.toFinset) fortresses id
    rw [(delete_closed (linked.single id) ids).1,linked.valid,remaining,and_right_comm]
    exact and_congr_right (fun left => same id left.1 left.2)
  · intro id
    change id ∈ (s.territory.deleteGuildTerritory ids).invalidTerritoryIds ↔
      id ∈ s.walkable \ ids.toFinset ∧ ¬map.Connected (s.walkable \ ids.toFinset) fortresses id
    rw [(delete_closed (linked.single id) ids).2,linked.invalid,remaining,and_right_comm]
    exact and_congr_right (fun left => not_congr (same id left.1 left.2))
  · intro id marked inside
    exact linked.pre id ((delete_subset ids).2 marked) ((remaining id).mp inside).1

-- No connected tile is cut off, and the fortresses reach an unconnected one only along with a new tile.
structure Extends (map : SearchMap) (s : Links) (fortresses : Finset TerritoryId) (ids : List TerritoryId) : Prop where
  kept : ∀ id ∈ s.walkable, map.Connected s.walkable s.fortresses id → map.Connected (s.walkable ∪ ids.toFinset) fortresses id
  joined : (∃ new ∈ ids, map.Connected (s.walkable ∪ ids.toFinset) fortresses new) ∨
    ∀ id ∈ s.walkable, map.Connected s.walkable fortresses id → map.Connected s.walkable s.fortresses id

theorem extends_steady (map : SearchMap) (s : Links) (ids : List TerritoryId) : Extends map s s.fortresses ids :=
  ⟨fun _ _ connected => connected_mono Finset.subset_union_left (Finset.Subset.refl _) connected,.inr (fun _ _ connected => connected)⟩

theorem added_linked (linked : Linked map s) (anchored : ∀ one ∈ fortresses, map.Inner one) (within : ∀ id ∈ ids, map.Inner id)
    (extending : Extends map s fortresses ids) :
    Linked map ⟨s.territory.addGuildTerritory (map.findPath (s.walkable ∪ ids.toFinset) fortresses) ids [],s.walkable ∪ ids.toFinset,fortresses⟩ := by
  have member : ∀ id, id ∈ s.walkable ∪ ids.toFinset ↔ id ∈ s.walkable ∨ id ∈ ids := by
    intro id
    rw [Finset.mem_union,List.mem_toFinset]
  have inner : ∀ id ∈ s.walkable ∪ ids.toFinset, map.Inner id := by
    intro id inside
    rcases (member id).mp inside with old | new
    · exact linked.inner id old
    · exact within id new
  have found : ∀ id ∈ s.walkable ∪ ids.toFinset, (map.findPath (s.walkable ∪ ids.toFinset) fortresses id = true ↔
      map.Connected (s.walkable ∪ ids.toFinset) fortresses id) := by
    intro id inside
    exact findPath_connected inner anchored (inner id inside)
  have missed : ∀ id ∈ s.walkable ∪ ids.toFinset, (map.findPath (s.walkable ∪ ids.toFinset) fortresses id = false ↔
      ¬map.Connected (s.walkable ∪ ids.toFinset) fortresses id) := by
    intro id inside
    rw [← found id inside,Bool.not_eq_true]
  have kept : ∀ id ∈ s.territory.validTerritoryIds, map.findPath (s.walkable ∪ ids.toFinset) fortresses id = true := by
    intro id valid
    obtain ⟨old,connected⟩ := (linked.valid id).mp valid
    exact (found id ((member id).mpr (.inl old))).mpr (extending.kept id old connected)
  have joined : (∃ new ∈ ids, map.findPath (s.walkable ∪ ids.toFinset) fortresses new = true) ∨
      ∀ id ∈ s.territory.invalidTerritoryIds, map.findPath (s.walkable ∪ ids.toFinset) fortresses id = false := by
    by_cases some : ∃ new ∈ ids, map.Connected (s.walkable ∪ ids.toFinset) fortresses new
    · obtain ⟨new,inside,connected⟩ := some
      exact .inl ⟨new,inside,(found new ((member new).mpr (.inr inside))).mpr connected⟩
    · refine .inr (fun id invalid => ?_)
      obtain ⟨old,apart⟩ := (linked.invalid id).mp invalid
      rw [missed id ((member id).mpr (.inl old))]
      intro connected
      have without := connected_without (fun new inside reached => some ⟨new,List.mem_toFinset.mp inside,reached⟩) connected
      exact apart (extending.joined.resolve_left some id old without)
  refine ⟨inner,?_,?_,?_⟩
  · intro id
    change id ∈ (s.territory.addGuildTerritory (map.findPath (s.walkable ∪ ids.toFinset) fortresses) ids []).validTerritoryIds ↔ _
    rw [(add_sorted kept joined).1,linked.held,← member]
    exact and_congr_right (found id)
  · intro id
    change id ∈ (s.territory.addGuildTerritory (map.findPath (s.walkable ∪ ids.toFinset) fortresses) ids []).invalidTerritoryIds ↔ _
    rw [(add_sorted kept joined).2,linked.held,← member]
    exact and_congr_right (missed id)
  · intro id marked inside
    obtain ⟨before,unlisted⟩ := add_marks.mp marked
    rcases (member id).mp inside with old | new
    · exact linked.pre id before old
    · exact unlisted new

theorem add_linked (linked : Linked map s) (anchored : ∀ one ∈ fortresses, map.Inner one) (within : ∀ id ∈ ids, map.Inner id)
    (extending : Extends map s fortresses ids) (outside : ∀ id ∈ pre, id ∉ s.walkable ∧ id ∉ ids) :
    Linked map (s.next map ⟨fortresses,.addGuildTerritory ids pre⟩) := by
  have added := added_linked linked anchored within extending
  have unheld : ∀ id ∈ pre, id ∉ s.territory.held ∧ id ∉ ids := by
    intro id marked
    rw [linked.held]
    exact outside id marked
  simp only [Links.next,add_outside unheld]
  refine ⟨added.inner,added.valid,added.invalid,?_⟩
  intro id marked inside
  rcases Finset.mem_union.mp marked with new | before
  · have apart := outside id (List.mem_toFinset.mp new)
    rcases Finset.mem_union.mp inside with old | listed
    · exact apart.1 old
    · exact apart.2 (List.mem_toFinset.mp listed)
  · exact added.pre id before inside

-- No fortress or new tile is in the last column; pre-occupied tiles are not occupied ones; no tile
-- that a call does not look at changes its connection.
def Joins (map : SearchMap) (s : Links) (label : LinkLabel) : Prop :=
  (∀ one ∈ label.fortresses, map.Inner one) ∧
    match label.call with
    | .addGuildTerritory ids pre =>
      (∀ id ∈ ids, map.Inner id) ∧ Extends map s label.fortresses ids ∧ ∀ id ∈ pre, id ∉ s.walkable ∧ id ∉ ids
    | .guildTerritoryStatusChange ids => ∀ id ∈ s.walkable, id ∉ ids →
      (map.Connected s.walkable s.fortresses id ↔ map.Connected s.walkable label.fortresses id)
    | .deleteGuildTerritory ids => ∀ id ∈ s.walkable, id ∉ ids →
      (map.Connected s.walkable s.fortresses id ↔ map.Connected (s.walkable \ ids.toFinset) label.fortresses id)

theorem next_linked {label : LinkLabel} (linked : Linked map s) (joins : Joins map s label) : Linked map (s.next map label) := by
  obtain ⟨fortresses,call⟩ := label
  obtain ⟨anchored,joins⟩ := joins
  cases call with
  | addGuildTerritory ids pre => exact add_linked linked anchored joins.1 joins.2.1 joins.2.2
  | guildTerritoryStatusChange ids => exact status_linked linked anchored joins
  | deleteGuildTerritory ids => exact delete_linked linked joins

theorem unlinked_linked : Linked map unlinked := by
  refine ⟨?_,?_,?_,?_⟩
  · intro id inside
    cases inside
  · intro id
    exact ⟨fun inside => (Finset.notMem_empty id inside).elim,fun both => (Finset.notMem_empty id both.1).elim⟩
  · intro id
    exact ⟨fun inside => (Finset.notMem_empty id inside).elim,fun both => (Finset.notMem_empty id both.1).elim⟩
  · intro id marked
    cases marked

end steps

-- The three sets share no tile, and the valid ones are those connected to a fortress through
-- tiles of the guild.
structure Sorted (map : SearchMap) (s : Links) : Prop where
  validInvalid : Disjoint s.territory.validTerritoryIds s.territory.invalidTerritoryIds
  validPre : Disjoint s.territory.validTerritoryIds s.territory.preOccupyTerritoryIds
  invalidPre : Disjoint s.territory.invalidTerritoryIds s.territory.preOccupyTerritoryIds
  connected : ∀ id, id ∈ s.territory.validTerritoryIds ↔ id ∈ s.territory.held ∧ map.Connected s.territory.held s.fortresses id

theorem Linked.sorted {map : SearchMap} {s : Links} (linked : Linked map s) : Sorted map s := by
  refine ⟨?_,?_,?_,?_⟩
  · rw [Finset.disjoint_left]
    exact fun id valid invalid => linked.single id ⟨valid,invalid⟩
  · rw [Finset.disjoint_left]
    exact fun id valid marked => linked.pre id marked ((linked.valid id).mp valid).1
  · rw [Finset.disjoint_left]
    exact fun id invalid marked => linked.pre id marked ((linked.invalid id).mp invalid).1
  · have held : s.territory.held = s.walkable := Finset.ext linked.held
    rw [held]
    exact linked.valid

theorem territories_sorted (map : SearchMap) (path : Runs (Guarded (LinkSteps map) (Joins map)) unlinked labels t) : Sorted map t := by
  have linked : Linked map t := by
    refine Runs.invariant ?_ path unlinked_linked
    rintro before label after linked ⟨rfl,joins⟩
    exact next_linked linked joins
  exact linked.sorted

def strip : SearchMap := ⟨5,1,by decide⟩

-- Tile 4 is cut off until 2 and 3 come, then goes.
def bridged : List LinkLabel :=
  [⟨{1},.addGuildTerritory [1] [3]⟩,⟨{1},.addGuildTerritory [4] []⟩,⟨{1},.addGuildTerritory [2,3] []⟩,⟨{1},.deleteGuildTerritory [4]⟩]

def afterBridge : Links := bridged.foldl (Links.next strip) unlinked

theorem bridge_sorted : afterBridge.territory.validTerritoryIds = {1,2,3} ∧ Sorted strip afterBridge := by
  have anchored : ∀ one ∈ ({1} : Finset TerritoryId), strip.Inner one := by
    unfold SearchMap.Inner
    decide
  have inner : ∀ one ∈ ({1,2,3} : Finset TerritoryId), strip.Inner one := by
    unfold SearchMap.Inner
    decide
  have left : ∀ id ∈ ({1,2,3} : Finset TerritoryId), strip.Connected {1,2,3} {1} id := by
    intro id inside
    refine (findPath_connected inner anchored (inner id inside)).mp ?_
    revert id
    decide
  have path : Runs (Guarded (LinkSteps strip) (Joins strip)) unlinked bridged afterBridge := by
    refine .more ⟨rfl,anchored,?_,?_,?_⟩ (.more ⟨rfl,anchored,?_,extends_steady _ _ _,?_⟩
      (.more ⟨rfl,anchored,?_,extends_steady _ _ _,?_⟩ (.more ⟨rfl,anchored,?_⟩ .done)))
    · unfold SearchMap.Inner
      decide
    · exact ⟨fun id inside => (Finset.notMem_empty id inside).elim,.inr (fun id inside => (Finset.notMem_empty id inside).elim)⟩
    · decide
    · unfold SearchMap.Inner
      decide
    · decide
    · unfold SearchMap.Inner
      decide
    · decide
    · intro id inside unlisted
      have remaining : ((bridged.take 3).foldl (Links.next strip) unlinked).walkable \ [4].toFinset = {1,2,3} := by decide
      have there : id ∈ ({1,2,3} : Finset TerritoryId) := by
        rw [← remaining,Finset.mem_sdiff,List.mem_toFinset]
        exact ⟨inside,unlisted⟩
      have connected := left id there
      rw [← remaining] at connected
      exact ⟨fun _ => connected,connected_mono Finset.sdiff_subset (Finset.Subset.refl _)⟩
  exact ⟨by decide,territories_sorted strip path⟩

def edge : SearchMap := ⟨3,1,by decide⟩

theorem last_column_unsorted : ¬∀ map labels t, Runs (LinkSteps map) unlinked labels t → Sorted map t := by
  intro always
  have path : Runs (LinkSteps edge) unlinked [⟨{1},.addGuildTerritory [1,2,3] []⟩] (unlinked.next edge ⟨{1},.addGuildTerritory [1,2,3] []⟩) :=
    .more rfl .done
  have connected := (always edge _ _ path).connected 3
  have unlisted : 3 ∉ (unlinked.next edge ⟨{1},.addGuildTerritory [1,2,3] []⟩).territory.validTerritoryIds := by decide
  have first : edge.Adjacent 1 2 := .inr (.inr ⟨.inl rfl,by decide⟩)
  have second : edge.Adjacent 2 3 := .inr (.inr ⟨.inl rfl,by decide⟩)
  exact unlisted (connected.mpr ⟨by decide,1,by decide,.tail (.tail .refl ⟨first,by decide⟩) ⟨second,by decide⟩⟩)

end OriginGame.Territory
