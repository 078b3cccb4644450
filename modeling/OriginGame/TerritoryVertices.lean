import OriginGame.TerritoryBlocks

namespace OriginGame.GuildTerritoryLogic

section table
variable {territoryPos : TerritoryPos} {poses : List Pos} {pos : Pos}

theorem find_addVertex (territoryPos : TerritoryPos) (pos other : Pos) : (addVertex territoryPos pos).find other.1 other.2 =
    if other = pos then some ⟨((territoryPos.find pos.1 pos.2).map Vertex.num).getD 0+1,false⟩ else territoryPos.find other.1 other.2 := by
  unfold addVertex
  rw [NestedTable.find_put]
  exact if_congr Prod.ext_iff.symm rfl rfl

theorem find_addVertices (poses : List Pos) (territoryPos : TerritoryPos) (pos : Pos) :
    (poses.foldl addVertex territoryPos).find pos.1 pos.2 =
      if pos ∈ poses then some ⟨((territoryPos.find pos.1 pos.2).map Vertex.num).getD 0+poses.count pos,false⟩
      else territoryPos.find pos.1 pos.2 := by
  induction poses generalizing territoryPos with
  | nil => rw [List.foldl_nil,if_neg List.not_mem_nil]
  | cons head rest ih =>
    rw [List.foldl_cons,ih,find_addVertex]
    by_cases here : pos = head
    · subst here
      rw [if_pos rfl,if_pos List.mem_cons_self,List.count_cons_self,Option.map_some,Option.getD_some]
      split
      · rw [Nat.add_assoc,Nat.add_comm 1]
      next missing => rw [List.count_eq_zero_of_not_mem missing]
    · rw [if_neg here,List.count_cons_of_ne (Ne.symm here)]
      exact if_congr (by rw [List.mem_cons,or_iff_right here]) rfl rfl

variable (c : Config) (order : Order Int) (territoryIds : Territories) (width : Int)

-- Each corner with the number of tiles it is one of.
theorem find_vertexPoses (pos : Pos) : (getAllTerritoryVertexPoses c order territoryIds width).find pos.1 pos.2 =
    if pos ∈ (order.visit territoryIds.keys).flatMap (vertexPoses c width) then
      some ⟨((order.visit territoryIds.keys).flatMap (vertexPoses c width)).count pos,false⟩
    else none := by
  have flat : getAllTerritoryVertexPoses c order territoryIds width =
      ((order.visit territoryIds.keys).flatMap (vertexPoses c width)).foldl addVertex ∅ := (List.foldl_flatMap ..).symm
  rw [flat,find_addVertices,NestedTable.find_empty]
  simp only [Option.map_none,Option.getD_none,Nat.zero_add]

theorem mem_vertexPoses (pos : Pos) : pos ∈ (order.visit territoryIds.keys).flatMap (vertexPoses c width) ↔
    ∃ id, id ∈ territoryIds ∧ pos ∈ vertexPoses c width id := by
  simp only [List.mem_flatMap,order.mem_visit,AList.mem_keys]

end table

section coordinates
variable (c : Config)

-- By getPosTerritoryId's numbers and by the coordinates of the searches.
structure CoordinatesAgree (a b : Int) : Prop where
  beside : Grid.Beside (c.grid.cellOf a) (c.grid.cellOf b) ↔
    Grid.Beside ((searchMap c).territoryIdToSearchMapPos a) ((searchMap c).territoryIdToSearchMapPos b)
  distinct : a ≠ b → (searchMap c).territoryIdToSearchMapPos a ≠ (searchMap c).territoryIdToSearchMapPos b

def square (size : Int) (corner : Pos) : List Pos :=
  [corner,(corner.1+size,corner.2),(corner.1+size,corner.2+size),(corner.1,corner.2+size)]

-- The corners a tile is given are those of a square whose inner positions are the tile's.
def CornersExact (territoryId : Int) : Prop :=
  ∃ corner : Pos, (∀ order pos, ((getAllTerritoryVertexPoses c order (AList.insert territoryId () ∅) c.xSum).find pos.1 pos.2).isSome ↔
      pos ∈ square c.territorySizeMin corner) ∧
    ∀ x y : ℚ, corner.1 < x → x < corner.1+c.territorySizeMin → corner.2 < y → y < corner.2+c.territorySizeMin →
      getPosTerritoryId c (x,y) true = territoryId

-- In one row, one of them in the last column, the other in the first or the last but one.
def Misplaced (a b : Int) : Prop := rowOf c a = rowOf c b ∧ a % c.xSum = 0 ∧ (b % c.xSum = 1 ∨ b % c.xSum = c.xSum-1)

variable {c} {cell other : Cell} {a b territoryId : Int}

theorem number_emod (inside : c.grid.Inside cell) :
    c.grid.number cell % c.xSum = if cell.1+1 = c.xSum then 0 else cell.1+1 := by
  have left := inside.1.1
  have right : cell.1 < c.xSum := inside.1.2
  have shifted : c.grid.number cell = cell.1+1+c.xSum*cell.2 := by
    unfold Grid.number Config.grid
    ring
  rw [shifted,Int.add_mul_emod_self_left]
  split
  next last => rw [last,Int.emod_self]
  next => exact Int.emod_eq_of_lt (by omega) (by omega)

theorem number_ediv (inside : c.grid.Inside cell) :
    c.grid.number cell / c.xSum = if cell.1+1 = c.xSum then cell.2+1 else cell.2 := by
  have left := inside.1.1
  have right : cell.1 < c.xSum := inside.1.2
  have wide : (0 : Int) < c.xSum := Grid.columns_pos c.grid
  have shifted : c.grid.number cell = cell.1+1+c.xSum*cell.2 := by
    unfold Grid.number Config.grid
    ring
  rw [shifted,Int.add_mul_ediv_left _ _ wide.ne']
  split
  next last => rw [last,Int.ediv_self wide.ne',add_comm]
  next => rw [Int.ediv_eq_zero_of_lt (by omega) (by omega),zero_add]

theorem searchMapPos_number (inside : c.grid.Inside cell) : (searchMap c).territoryIdToSearchMapPos (c.grid.number cell) =
    (if cell.1+1 = c.xSum then 0 else cell.1+1,cell.2+1) := by
  refine Prod.ext (number_emod inside) ?_
  exact Grid.ceilRow_number inside.1.1 inside.1.2

theorem coordinates_cells (inside : c.grid.Inside cell) (there : c.grid.Inside other) :
    CoordinatesAgree c (c.grid.number cell) (c.grid.number other) ↔
      (2 < c.xSum → ¬ Misplaced c (c.grid.number cell) (c.grid.number other) ∧ ¬ Misplaced c (c.grid.number other) (c.grid.number cell)) := by
  have left := inside.1.1
  have right : cell.1 < c.xSum := inside.1.2
  have left' := there.1.1
  have right' : other.1 < c.xSum := there.1.2
  have row (cell : Cell) (inside : c.grid.Inside cell) : rowOf c (c.grid.number cell) = cell.2+1 := Grid.ceilRow_number inside.1.1 inside.1.2
  have misplaced : (2 < c.xSum → ¬ Misplaced c (c.grid.number cell) (c.grid.number other) ∧ ¬ Misplaced c (c.grid.number other) (c.grid.number cell)) ↔
      (Grid.Beside cell other ↔
        Grid.Beside ((if cell.1+1 = c.xSum then 0 else cell.1+1 : Int),cell.2+1) ((if other.1+1 = c.xSum then 0 else other.1+1 : Int),other.2+1)) := by
    unfold Misplaced Grid.Beside
    rw [row cell inside,row other there,number_emod inside,number_emod there]
    by_cases last : cell.1+1 = c.xSum <;> by_cases lastToo : other.1+1 = c.xSum <;> simp only [last,lastToo,if_true,if_false,true_and] <;> omega
  constructor
  · intro agree
    have beside := agree.beside
    rw [searchMapPos_number inside,searchMapPos_number there,Grid.cellOf_number left right,Grid.cellOf_number left' right'] at beside
    exact misplaced.mpr beside
  · intro placed
    refine ⟨?_,fun apart same => apart ?_⟩
    · rw [searchMapPos_number inside,searchMapPos_number there,Grid.cellOf_number left right,Grid.cellOf_number left' right']
      exact misplaced.mp placed
    · rw [searchMapPos_number inside,searchMapPos_number there,Prod.mk.injEq] at same
      refine congrArg _ (Prod.ext ?_ (by omega))
      have column := same.1
      split at column <;> split at column <;> omega

theorem tileAlong_eq {side x : ℚ} {k : Int} (positive : 0 < side) (least : 0 ≤ k) (above : k*side < x) (most : x ≤ (k+1)*side) :
    tileAlong side x = k := by
  have next : ⌈x/side⌉ = k+1 := by
    refine Int.ceil_eq_iff.mpr ⟨?_,?_⟩
    · push_cast
      rw [add_sub_cancel_right,lt_div_iff₀ positive]
      exact above
    · push_cast
      rw [div_le_iff₀ positive]
      exact most
  rw [tileAlong,next]
  omega

theorem side_size (c : Config) : c.side true = c.territorySizeMin := mul_one _

theorem size_rat (c : Config) : (0 : ℚ) < c.territorySizeMin := Nat.cast_pos.mpr c.size_pos

theorem size_int (c : Config) : (0 : Int) < c.territorySizeMin := Int.natCast_pos.mpr c.size_pos

-- A square is known by its corners.
theorem square_corner {size : Int} (positive : 0 < size) {corner there : Pos} (same : ∀ pos, pos ∈ square size corner ↔ pos ∈ square size there) :
    corner = there := by
  have first := (same corner).mp List.mem_cons_self
  have back := (same there).mpr List.mem_cons_self
  simp only [square,List.mem_cons,List.not_mem_nil,or_false,Prod.ext_iff] at first back
  ext <;> omega

theorem vertexPoses_square (c : Config) (width territoryId : Int) : vertexPoses c width territoryId =
    square c.territorySizeMin ((territoryId % width-1)*c.territorySizeMin,territoryId / width*c.territorySizeMin) := rfl

theorem find_only (order : Order Int) (pos : Pos) :
    ((getAllTerritoryVertexPoses c order (AList.insert territoryId () ∅) c.xSum).find pos.1 pos.2).isSome ↔ pos ∈ vertexPoses c c.xSum territoryId := by
  have only (id : Int) : id ∈ (AList.insert territoryId () ∅ : Territories) ↔ id = territoryId := by
    rw [AList.mem_insert]
    exact or_iff_left (AList.notMem_empty id)
  have member := mem_vertexPoses c order (AList.insert territoryId () ∅) c.xSum pos
  simp only [only,exists_eq_left] at member
  rw [find_vertexPoses]
  split
  next mem => exact ⟨fun _ => member.mp mem,fun _ => rfl⟩
  next off => exact ⟨fun found => (by cases found),fun mem => absurd (member.mpr mem) off⟩

-- The inner positions of a tile's square, and the first column's row above for what lies left of the map.
theorem getPosTerritoryId_inner (cell : Cell) (left : 0 ≤ cell.1) (low : 0 ≤ cell.2) {x y : ℚ} (after : cell.1*c.territorySizeMin < x)
    (before : x < (cell.1+1)*c.territorySizeMin) (above : cell.2*c.territorySizeMin < y) (below : y < (cell.2+1)*c.territorySizeMin) :
    getPosTerritoryId c (x,y) true = c.grid.number cell := by
  have positive := size_rat c
  have start : (0 : ℚ) ≤ cell.1*c.territorySizeMin := mul_nonneg (by exact_mod_cast left) positive.le
  have bottom : (0 : ℚ) ≤ cell.2*c.territorySizeMin := mul_nonneg (by exact_mod_cast low) positive.le
  refine Eq.trans (getPosTerritoryId_tile ?_ ?_) (congrArg _ (Prod.ext ?_ ?_))
  · exact start.trans after.le
  · exact bottom.trans above.le
  · exact tileAlong_eq (side_pos c true) left (by rw [side_size]; exact after) (by rw [side_size]; exact before.le)
  · exact tileAlong_eq (side_pos c true) low (by rw [side_size]; exact above) (by rw [side_size]; exact below.le)

theorem getPosTerritoryId_left {row : Int} (low : 0 ≤ row) : getPosTerritoryId c (-c.territorySizeMin/2,(row+1/2)*c.territorySizeMin) true =
    c.xSum*row+1 := by
  have positive := size_rat c
  have high : (0 : ℚ) ≤ (row+1/2)*c.territorySizeMin := by
    have least : (0 : ℚ) ≤ row := by exact_mod_cast low
    positivity
  have column : ⌈-(c.territorySizeMin : ℚ)/2/c.territorySizeMin⌉ = 0 := by
    rw [neg_div,neg_div,div_right_comm,div_self positive.ne']
    decide +kernel
  have line := yNum_eq (side_pos c true) high
  rw [tileAlong_eq (side_pos c true) low (by rw [side_size]; linarith [mul_lt_mul_of_pos_right (show (row : ℚ) < row+1/2 by linarith) positive])
    (by rw [side_size]; exact (mul_lt_mul_of_pos_right (show (row : ℚ)+1/2 < row+1 by linarith) positive).le)] at line
  rw [side_size] at line
  unfold getPosTerritoryId
  simp only [if_true,div_one,mul_one,column]
  rw [line]

theorem corners_exact (inside : c.grid.Inside cell) : CornersExact c (c.grid.number cell) ↔ c.grid.number cell % c.xSum ≠ 0 := by
  have low := inside.2.1
  have left := inside.1.1
  have remainder := number_emod inside
  have quotient := number_ediv inside
  unfold CornersExact
  simp only [find_only,vertexPoses_square]
  constructor
  · rintro ⟨corner,corners,inner⟩ last
    have column : cell.1+1 = c.xSum := by
      by_contra before
      rw [if_neg before] at remainder
      omega
    have place := square_corner (size_int c) (corners .stored)
    rw [last,quotient,if_pos column] at place
    have positive := size_rat c
    have mid := inner (-c.territorySizeMin/2) (((cell.2+1 : Int)+1/2)*c.territorySizeMin)
    rw [← place,getPosTerritoryId_left (by omega)] at mid
    push_cast at mid
    have its := mid (by linarith) (by linarith) (by linarith) (by linarith)
    unfold Grid.number at its
    change (c.xSum : Int)*(cell.2+1)+1 = c.xSum*cell.2+cell.1+1 at its
    linarith
  · intro before
    have column : ¬ cell.1+1 = c.xSum := by
      intro last
      rw [if_pos last] at remainder
      exact before remainder
    rw [remainder,quotient,if_neg column,if_neg column,add_sub_cancel_right]
    refine ⟨_,fun _ _ => Iff.rfl,fun x y after before above below => ?_⟩
    push_cast at after before above below
    exact getPosTerritoryId_inner cell left low after (by linarith) above (by linarith)

theorem coordinates_agree (low : 1 ≤ a) (most : a ≤ getMaxTerritoryId c) (lowToo : 1 ≤ b) (mostToo : b ≤ getMaxTerritoryId c)
    (from_ : 1 ≤ territoryId) (upTo : territoryId ≤ getMaxTerritoryId c) : CoordinatesAgree c a b ∧ CornersExact c territoryId ↔
      (2 < c.xSum → ¬ Misplaced c a b ∧ ¬ Misplaced c b a) ∧ territoryId % c.xSum ≠ 0 := by
  have first := coordinates_cells (Grid.cellOf_inside (g:=c.grid) low most) (Grid.cellOf_inside lowToo mostToo)
  have second := corners_exact (Grid.cellOf_inside (g:=c.grid) from_ upTo)
  rw [Grid.number_cellOf,Grid.number_cellOf] at first
  rw [Grid.number_cellOf] at second
  exact and_congr first second

end coordinates

section lastColumn

theorem small_agree : CoordinatesAgree small 1 2 ∧ CornersExact small 2 := by
  refine (coordinates_agree (by decide) (by decide) (by decide) (by decide) (by decide) (by decide)).mpr ⟨fun _ => ⟨?_,?_⟩,by decide⟩
  · rintro ⟨_,last,_⟩
    exact absurd last (by decide)
  · rintro ⟨_,last,_⟩
    exact absurd last (by decide)

-- The third tile is beside the first for the searches, and its corners are off the map.
theorem last_wraps : ¬ CoordinatesAgree small 1 3 ∧ ¬ CornersExact small 3 := by
  constructor
  · intro agree
    rcases agree.beside.mpr (.inl ⟨by decide,.inr (by decide)⟩) with ⟨_,right | left⟩ | ⟨column,_⟩
    · exact absurd right (by decide)
    · exact absurd left (by decide)
    · exact absurd column (by decide)
  · intro exact_
    have inside : small.grid.Inside (2,0) := ⟨⟨by decide,by decide⟩,by decide,by decide⟩
    exact absurd ((corners_exact inside).mp exact_) (by decide)

end lastColumn
end OriginGame.GuildTerritoryLogic
