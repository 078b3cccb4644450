import Mathlib.Data.Finset.Prod
import Mathlib.Tactic.Linarith
import Mathlib.Tactic.LinearCombination
import Mathlib.Tactic.Ring
import OriginGame.GuildTerritoryMgr
import OriginGame.Reach

namespace OriginGame.Territory

-- The map of a search: the tiles in rows, from 1.
structure SearchMap where
  width : Nat
  height : Nat
  wide : 0 < width

abbrev Node := Int × Int

namespace SearchMap
variable (map : SearchMap)

-- `math.ceil( territoryId / xSum )`
def row (territoryId : TerritoryId) : Int := -((-territoryId) / map.width)

def territoryIdToSearchMapPos (territoryId : TerritoryId) : Node := (territoryId % map.width,map.row territoryId)

def idx (node : Node) : Int := node.1+(node.2-1)*map.width

-- Only the tile stepped to has to be walkable.
def neighborComparator (walkable : Finset TerritoryId) (start goal : Node) : Bool :=
  map.idx goal ∈ walkable && (start.1 == goal.1 || start.2 == goal.2)

-- Positions go from zero.
def space : Finset Node :=
  (Finset.range (map.width+1) ×ˢ Finset.range (map.height+1)).image (fun place : Nat × Nat => ((place.1 : Int),(place.2 : Int)))

def pathNeighbors (walkable : Finset TerritoryId) (node : Node) : Finset Node :=
  (({node.1-1,node.1,node.1+1} : Finset Int) ×ˢ ({node.2-1,node.2,node.2+1} : Finset Int)).filter
    (fun goal => goal ≠ node ∧ goal ∈ map.space ∧ map.neighborComparator walkable node goal = true)

-- A* gives a path whenever there is one, in whatever order it opens nodes.
def path (walkable : Finset TerritoryId) (start goal : Node) : Bool :=
  goal ∈ Reach.search (map.pathNeighbors walkable) {start} ((map.width+1)*(map.height+1))

def findPath (walkable fortresses : Finset TerritoryId) (territoryId : TerritoryId) : Bool :=
  decide (∃ fortress ∈ fortresses,
    map.path walkable (map.territoryIdToSearchMapPos fortress) (map.territoryIdToSearchMapPos territoryId) = true)

-- A tile of the map that is not in the last column.
def Inner (territoryId : TerritoryId) : Prop := 0 < territoryId ∧ territoryId ≤ map.width*map.height ∧ territoryId % map.width ≠ 0

-- Above, below or beside it in the row.
def Adjacent (territoryId other : TerritoryId) : Prop :=
  other = territoryId+map.width ∨ other = territoryId-map.width ∨
    ((other = territoryId+1 ∨ other = territoryId-1) ∧ map.row other = map.row territoryId)

-- A tile is connected to a fortress through occupied tiles.
def Connected (occupied fortresses : Finset TerritoryId) (territoryId : TerritoryId) : Prop :=
  ∃ fortress ∈ fortresses, Relation.ReflTransGen (fun tile other => map.Adjacent tile other ∧ other ∈ occupied) fortress territoryId

end SearchMap

section grid
variable {map : SearchMap} {x y : Int} {tile other : TerritoryId} {node goal : Node} {walkable fortresses : Finset TerritoryId}

theorem wide (map : SearchMap) : 0 < (map.width : Int) := Int.natCast_pos.mpr map.wide

theorem pos_idx (left : 0 < x) (right : x < map.width) : map.territoryIdToSearchMapPos (map.idx (x,y)) = (x,y) := by
  have positive := wide map
  unfold SearchMap.territoryIdToSearchMapPos SearchMap.row SearchMap.idx
  ext
  · simp only [Int.add_mul_emod_self_right]
    exact Int.emod_eq_of_lt left.le right
  · have shifted : -(x+(y-1)*map.width) = (map.width-x)+(-y)*map.width := by ring
    simp only [shifted]
    rw [Int.add_mul_ediv_right _ _ positive.ne',Int.ediv_eq_zero_of_lt (by omega) (by omega)]
    omega

theorem row_eq (inner : tile % map.width ≠ 0) : map.row tile = tile / map.width+1 := by
  have positive := wide map
  have bound := Int.emod_lt_of_pos tile positive
  have within := (Int.emod_nonneg tile positive.ne').lt_of_ne inner.symm
  have split := Int.emod_add_mul_ediv tile map.width
  unfold SearchMap.row
  have shifted : -tile = (map.width-tile % map.width)+(-(tile / map.width+1))*map.width := by
    linear_combination split
  rw [shifted,Int.add_mul_ediv_right _ _ positive.ne',Int.ediv_eq_zero_of_lt (by linarith) (by linarith)]
  ring

theorem idx_pos (inner : tile % map.width ≠ 0) : map.idx (map.territoryIdToSearchMapPos tile) = tile := by
  unfold SearchMap.idx SearchMap.territoryIdToSearchMapPos
  rw [row_eq inner,Int.add_sub_cancel,mul_comm]
  exact Int.emod_add_mul_ediv tile map.width

theorem mem_space : node ∈ map.space ↔ (0 ≤ node.1 ∧ node.1 ≤ map.width) ∧ 0 ≤ node.2 ∧ node.2 ≤ map.height := by
  simp only [SearchMap.space,Finset.mem_image,Finset.mem_product,Finset.mem_range]
  constructor
  · rintro ⟨place,inside,rfl⟩
    omega
  · intro bounds
    refine ⟨(node.1.toNat,node.2.toNat),by omega,?_⟩
    ext
    · exact Int.toNat_of_nonneg bounds.1.1
    · exact Int.toNat_of_nonneg bounds.2.1

-- Of the eight nodes around, the comparator leaves the four beside.
theorem mem_pathNeighbors : goal ∈ map.pathNeighbors walkable node ↔ goal ∈ map.space ∧ map.idx goal ∈ walkable ∧
    ((goal.1 = node.1 ∧ (goal.2 = node.2+1 ∨ goal.2 = node.2-1)) ∨ (goal.2 = node.2 ∧ (goal.1 = node.1+1 ∨ goal.1 = node.1-1))) := by
  obtain ⟨column,line⟩ := node
  obtain ⟨x,y⟩ := goal
  have beside : ((x = column-1 ∨ x = column ∨ x = column+1) ∧ (y = line-1 ∨ y = line ∨ y = line+1)) ∧ ¬(x = column ∧ y = line) ∧
      (column = x ∨ line = y) ↔
      (x = column ∧ (y = line+1 ∨ y = line-1)) ∨ (y = line ∧ (x = column+1 ∨ x = column-1)) := by omega
  simp only [SearchMap.pathNeighbors,SearchMap.neighborComparator,Finset.mem_filter,Finset.mem_product,Finset.mem_insert,
    Finset.mem_singleton,ne_eq,Prod.mk.injEq,
    Bool.and_eq_true,Bool.or_eq_true,beq_iff_eq,decide_eq_true_eq]
  rw [← beside]
  constructor
  · rintro ⟨around,apart,inside,walk,line⟩
    exact ⟨inside,walk,around,apart,line⟩
  · rintro ⟨inside,walk,around,apart,line⟩
    exact ⟨around,apart,inside,walk,line⟩

theorem inner_space (inner : map.Inner tile) : map.territoryIdToSearchMapPos tile ∈ map.space := by
  obtain ⟨low,high,column⟩ := inner
  have positive := wide map
  rw [mem_space,SearchMap.territoryIdToSearchMapPos,row_eq column]
  refine ⟨⟨Int.emod_nonneg tile positive.ne',(Int.emod_lt_of_pos tile positive).le⟩,?_,?_⟩
  · have := Int.ediv_nonneg low.le positive.le
    omega
  · have below : tile < map.height*map.width := by
      rw [mul_comm]
      refine high.lt_of_ne ?_
      rintro rfl
      exact column (Int.mul_emod_right _ _)
    exact Int.ediv_lt_of_lt_mul positive below

-- With no tile of the last column walkable, the nodes stepped to are those of the tiles.
theorem idx_inner (inside : node ∈ map.space) (inner : map.Inner (map.idx node)) : map.territoryIdToSearchMapPos (map.idx node) = node := by
  obtain ⟨x,y⟩ := node
  have bounds := (mem_space.mp inside).1
  have column := inner.2.2
  rw [SearchMap.idx,Int.add_mul_emod_self_right] at column
  apply pos_idx
  · refine bounds.1.lt_of_ne ?_
    rintro rfl
    exact column (Int.zero_emod _)
  · refine bounds.2.lt_of_ne ?_
    rintro rfl
    exact column (Int.emod_self)

-- A tile a whole number of rows away.
theorem shifted_rows (inner : tile % map.width ≠ 0) (rows : Int) : (tile+rows*map.width) % map.width = tile % map.width ∧
    map.row (tile+rows*map.width) = map.row tile+rows := by
  have positive := wide map
  have same : (tile+rows*map.width) % map.width = tile % map.width := Int.add_mul_emod_self_right ..
  refine ⟨same,?_⟩
  rw [row_eq inner,row_eq (same ▸ inner),Int.add_mul_ediv_right _ _ positive.ne']
  ring

theorem adjacent_iff (inner : tile % map.width ≠ 0) (outer : other % map.width ≠ 0) : map.Adjacent tile other ↔
    (other % map.width = tile % map.width ∧ (map.row other = map.row tile+1 ∨ map.row other = map.row tile-1)) ∨
      (map.row other = map.row tile ∧ (other % map.width = tile % map.width+1 ∨ other % map.width = tile % map.width-1)) := by
  have here := idx_pos inner
  have there := idx_pos outer
  simp only [SearchMap.idx,SearchMap.territoryIdToSearchMapPos] at here there
  constructor
  · rintro (rfl | rfl | ⟨beside,same⟩)
    · have shifted := shifted_rows inner 1
      rw [one_mul] at shifted
      exact .inl ⟨shifted.1,.inl shifted.2⟩
    · have shifted := shifted_rows inner (-1)
      rw [neg_one_mul,← sub_eq_add_neg] at shifted
      exact .inl ⟨shifted.1,.inr shifted.2⟩
    · refine .inr ⟨same,?_⟩
      rw [same] at there
      rcases beside with next | before
      · exact .inl (by linarith)
      · exact .inr (by linarith)
  · rintro (⟨column,above | below⟩ | ⟨same,right | left⟩)
    · rw [column,above] at there
      exact .inl (by linarith)
    · rw [column,below] at there
      exact .inr (.inl (by linarith))
    · rw [same,right] at there
      exact .inr (.inr ⟨.inl (by linarith),same⟩)
    · rw [same,left] at there
      exact .inr (.inr ⟨.inr (by linarith),same⟩)

theorem neighbor_iff (within : ∀ one ∈ walkable, map.Inner one) (inner : map.Inner tile) :
    node ∈ map.pathNeighbors walkable (map.territoryIdToSearchMapPos tile) ↔
      ∃ other, map.Adjacent tile other ∧ other ∈ walkable ∧ map.territoryIdToSearchMapPos other = node := by
  rw [mem_pathNeighbors]
  constructor
  · rintro ⟨inside,occupied,beside⟩
    have its := idx_inner inside (within _ occupied)
    refine ⟨map.idx node,?_,occupied,its⟩
    rw [adjacent_iff inner.2.2 (within _ occupied).2.2]
    rw [← its] at beside
    exact beside
  · rintro ⟨other,adjacent,occupied,rfl⟩
    have theirs := within other occupied
    refine ⟨inner_space theirs,?_,(adjacent_iff inner.2.2 theirs.2.2).mp adjacent⟩
    rw [idx_pos theirs.2.2]
    exact occupied

theorem path_connected (within : ∀ one ∈ walkable, map.Inner one) (inner : map.Inner tile)
    (path : Reach.Path (map.pathNeighbors walkable) (map.territoryIdToSearchMapPos tile) node) :
    ∃ last, map.Inner last ∧ map.territoryIdToSearchMapPos last = node ∧
      Relation.ReflTransGen (fun tile other => map.Adjacent tile other ∧ other ∈ walkable) tile last := by
  induction path with
  | refl => exact ⟨tile,inner,rfl,.refl⟩
  | tail _ one ih =>
    obtain ⟨last,inside,rfl,links⟩ := ih
    obtain ⟨other,adjacent,occupied,its⟩ := (neighbor_iff within inside).mp one
    exact ⟨other,within other occupied,its,links.tail ⟨adjacent,occupied⟩⟩

theorem connected_path (within : ∀ one ∈ walkable, map.Inner one) (inner : map.Inner tile)
    (links : Relation.ReflTransGen (fun tile other => map.Adjacent tile other ∧ other ∈ walkable) tile other) :
    map.Inner other ∧ Reach.Path (map.pathNeighbors walkable) (map.territoryIdToSearchMapPos tile) (map.territoryIdToSearchMapPos other) := by
  induction links with
  | refl => exact ⟨inner,.refl⟩
  | tail _ one ih =>
    obtain ⟨inside,path⟩ := ih
    exact ⟨within _ one.2,path.tail ((neighbor_iff within inside).mpr ⟨_,one.1,one.2,rfl⟩)⟩

theorem pathNeighbors_space (walkable : Finset TerritoryId) (node : Node) : map.pathNeighbors walkable node ⊆ map.space := by
  intro goal inside
  exact (mem_pathNeighbors.mp inside).1

theorem card_space (map : SearchMap) : map.space.card ≤ (map.width+1)*(map.height+1) := by
  refine Finset.card_image_le.trans ?_
  rw [Finset.card_product,Finset.card_range,Finset.card_range]

-- The search answers whether a tile is connected.
theorem findPath_connected (within : ∀ one ∈ walkable, map.Inner one) (anchored : ∀ one ∈ fortresses, map.Inner one) (inner : map.Inner tile) :
    map.findPath walkable fortresses tile = true ↔ map.Connected walkable fortresses tile := by
  have searched : ∀ fortress ∈ fortresses,
      (map.path walkable (map.territoryIdToSearchMapPos fortress) (map.territoryIdToSearchMapPos tile) = true ↔
        Reach.Path (map.pathNeighbors walkable) (map.territoryIdToSearchMapPos fortress) (map.territoryIdToSearchMapPos tile)) := by
    intro fortress there
    have inside : {map.territoryIdToSearchMapPos fortress} ⊆ map.space := by
      rw [Finset.singleton_subset_iff]
      exact inner_space (anchored fortress there)
    rw [SearchMap.path,decide_eq_true_eq,Reach.mem_search (fun node _ => pathNeighbors_space walkable node) inside (card_space map)]
    simp only [Finset.mem_singleton,exists_eq_left]
  rw [SearchMap.findPath,decide_eq_true_eq]
  constructor
  · rintro ⟨fortress,there,found⟩
    obtain ⟨last,inside,same,links⟩ := path_connected within (anchored fortress there) ((searched fortress there).mp found)
    have its : last = tile := by
      rw [← idx_pos inside.2.2,same,idx_pos inner.2.2]
    exact ⟨fortress,there,its ▸ links⟩
  · rintro ⟨fortress,there,links⟩
    exact ⟨fortress,there,(searched fortress there).mpr (connected_path within (anchored fortress there) links).2⟩

end grid
end OriginGame.Territory
