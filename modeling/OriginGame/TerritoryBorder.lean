import OriginGame.TerritoryVertices

namespace OriginGame.GuildTerritoryLogic
open Border

-- The position of a point of the grid.
def cornerPos (c : Config) (p : Int × Int) : Pos := (p.1*c.territorySizeMin,p.2*c.territorySizeMin)

-- The tiles of the guild, as cells.
def territory (c : Config) (territoryIds : Territories) (cell : Cell) : Bool :=
  decide (((0 ≤ cell.1 ∧ cell.1 < c.xSum) ∧ 0 ≤ cell.2 ∧ cell.2 < c.ySum) ∧ c.grid.number cell ∈ territoryIds)

-- How many of the four tiles around a point are the guild's.
def numAt (c : Config) (territoryIds : Territories) (p : Int × Int) : Nat :=
  [Direction.right,.up,.left,.down].countP (fun d => territory c territoryIds (leftCell p d))

def OfMap (c : Config) (territoryIds : Territories) : Prop := ∀ id ∈ territoryIds, 1 ≤ id ∧ id ≤ getMaxTerritoryId c

-- None in the last column.
def Inner (c : Config) (territoryIds : Territories) : Prop := ∀ id ∈ territoryIds, id % c.xSum ≠ 0

section region
variable {c : Config} {territoryIds : Territories} {cell : Cell} {p : Int × Int}

theorem territory_iff : territory c territoryIds cell = true ↔ c.grid.Inside cell ∧ c.grid.number cell ∈ territoryIds := decide_eq_true_iff

theorem territory_inside (inside : c.grid.Inside cell) : territory c territoryIds cell = decide (c.grid.number cell ∈ territoryIds) :=
  decide_eq_decide.mpr (and_iff_right inside)

theorem territory_outside (outside : ¬ c.grid.Inside cell) : territory c territoryIds cell = false :=
  decide_eq_false (fun both => outside both.1)

theorem territory_finite (c : Config) (territoryIds : Territories) : {cell | territory c territoryIds cell = true}.Finite := by
  refine ((territoryIds.keys.toFinset.finite_toSet).image c.grid.cellOf).subset (fun cell mem => ?_)
  obtain ⟨inside,listed⟩ := territory_iff.mp mem
  exact ⟨c.grid.number cell,by simpa using AList.mem_keys.mp listed,Grid.cellOf_number inside.1.1 inside.1.2⟩

theorem territory_inner (inner : Inner c territoryIds) (mem : territory c territoryIds cell = true) : c.grid.Inside cell ∧ cell.1+1 < c.xSum := by
  obtain ⟨inside,listed⟩ := territory_iff.mp mem
  have remainder := number_emod inside
  have right : cell.1 < c.xSum := inside.1.2
  refine ⟨inside,?_⟩
  by_contra last
  rw [if_pos (by omega)] at remainder
  exact inner _ listed remainder

theorem numAt_some (there : numAt c territoryIds p ≠ 0) : ∃ d, territory c territoryIds (leftCell p d) = true := by
  by_contra none_
  push Not at none_
  exact there (List.countP_eq_zero.mpr (fun d _ => none_ d))

theorem numAt_border {d : Direction} (on : border (territory c territoryIds) (p,d) = true) :
    numAt c territoryIds p ≠ 0 ∧ numAt c territoryIds p < 4 := by
  have sides := on
  rw [border_straight] at sides
  simp only [numAt,List.countP_cons,List.countP_nil]
  revert sides
  cases d <;> simp only [Direction.clockwise] <;>
    cases territory c territoryIds (leftCell p .right) <;> cases territory c territoryIds (leftCell p .up) <;>
    cases territory c territoryIds (leftCell p .left) <;> cases territory c territoryIds (leftCell p .down) <;> simp

theorem border_numAt (there : numAt c territoryIds p ≠ 0) (partly : numAt c territoryIds p < 4) :
    ∃ d, border (territory c territoryIds) (p,d) = true := by
  by_contra none_
  push Not at none_
  have up := none_ .up
  have right := none_ .right
  have down := none_ .down
  simp only [numAt,List.countP_cons,List.countP_nil] at there partly
  rw [border_straight] at up right down
  simp only [Direction.clockwise] at up right down
  revert up right down there partly
  cases territory c territoryIds (leftCell p .right) <;> cases territory c territoryIds (leftCell p .up) <;>
    cases territory c territoryIds (leftCell p .left) <;> cases territory c territoryIds (leftCell p .down) <;> simp

-- A point at a tile that is not in the last column.
theorem numAt_bounds (inner : Inner c territoryIds) (there : numAt c territoryIds p ≠ 0) :
    (0 ≤ p.1 ∧ p.1 < c.xSum) ∧ 0 ≤ p.2 ∧ p.2 ≤ c.ySum := by
  obtain ⟨d,mem⟩ := numAt_some there
  obtain ⟨⟨⟨left,_⟩,low,high⟩,right⟩ := territory_inner inner mem
  have height : (c.grid.rows : Int) = c.ySum := rfl
  rw [height] at high
  cases d <;> simp only [leftCell] at left right low high <;> omega

end region

section table
variable {c : Config} {territoryIds : Territories} {p : Int × Int}

theorem cornerPos_inj (c : Config) {p q : Int × Int} : cornerPos c p = cornerPos c q ↔ p = q := by
  have positive := (size_int c).ne'
  refine ⟨fun same => ?_,congrArg _⟩
  have first := mul_right_cancel₀ positive (congrArg Prod.fst same)
  have second := mul_right_cancel₀ positive (congrArg Prod.snd same)
  exact Prod.ext first second

theorem square_corners (c : Config) (cell : Cell) : square c.territorySizeMin (cornerPos c cell) =
    [cornerPos c cell,cornerPos c (cell.1+1,cell.2),cornerPos c (cell.1+1,cell.2+1),cornerPos c (cell.1,cell.2+1)] := by
  simp only [square,cornerPos,add_mul,one_mul]

-- How often a point is a corner of a cell: once for each way of having it on the left.
theorem count_square (c : Config) (cell : Cell) (p : Int × Int) : (square c.territorySizeMin (cornerPos c cell)).count (cornerPos c p) =
    [Direction.right,.up,.left,.down].countP (fun d => decide (leftCell p d = cell)) := by
  have corner (q : Int × Int) : (cornerPos c q == cornerPos c p) = decide (q = p) := by
    rw [Bool.eq_iff_iff,beq_iff_eq,decide_eq_true_iff]
    exact cornerPos_inj c
  have right : (cell = p) ↔ leftCell p .right = cell := by
    simp only [leftCell,Prod.ext_iff]
    omega
  have up : ((cell.1+1,cell.2) = p) ↔ leftCell p .up = cell := by
    simp only [leftCell,Prod.ext_iff]
    omega
  have left : ((cell.1+1,cell.2+1) = p) ↔ leftCell p .left = cell := by
    simp only [leftCell,Prod.ext_iff]
    omega
  have down : ((cell.1,cell.2+1) = p) ↔ leftCell p .down = cell := by
    simp only [leftCell,Prod.ext_iff]
    omega
  rw [square_corners]
  simp only [List.count_cons,List.count_nil,List.countP_cons,List.countP_nil,corner,right,up,left,down]

theorem vertexPoses_inner {id : Int} (inside : c.grid.Inside (c.grid.cellOf id)) (inner : id % c.xSum ≠ 0) :
    vertexPoses c c.xSum id = square c.territorySizeMin (cornerPos c (c.grid.cellOf id)) := by
  have remainder := number_emod inside
  have quotient := number_ediv inside
  rw [Grid.number_cellOf] at remainder quotient
  have column : ¬ (c.grid.cellOf id).1+1 = c.xSum := by
    intro last
    rw [if_pos last] at remainder
    exact inner remainder
  rw [vertexPoses_square,remainder,quotient,if_neg column,if_neg column,add_sub_cancel_right]
  rfl

theorem count_poses {list : List Int} (ofMap : ∀ id ∈ list, 1 ≤ id ∧ id ≤ getMaxTerritoryId c) (inner : ∀ id ∈ list, id % c.xSum ≠ 0) (p : Int × Int) :
    (list.flatMap (vertexPoses c c.xSum)).count (cornerPos c p) =
      list.countP (fun id => decide (leftCell p .right = c.grid.cellOf id))+list.countP (fun id => decide (leftCell p .up = c.grid.cellOf id))+
        list.countP (fun id => decide (leftCell p .left = c.grid.cellOf id))+list.countP (fun id => decide (leftCell p .down = c.grid.cellOf id)) := by
  induction list with
  | nil => rfl
  | cons id rest ih =>
    have here := ofMap id List.mem_cons_self
    have poses := vertexPoses_inner (Grid.cellOf_inside (g:=c.grid) here.1 here.2) (inner id List.mem_cons_self)
    rw [List.flatMap_cons,List.count_append,poses,count_square,
      ih (fun other mem => ofMap other (List.mem_cons_of_mem _ mem)) (fun other mem => inner other (List.mem_cons_of_mem _ mem))]
    simp only [List.countP_cons,List.countP_nil]
    omega

-- Each cell has one id.
theorem countP_cell {list : List Int} (distinct : list.Nodup) (listed : ∀ id, id ∈ list ↔ id ∈ territoryIds) (ofMap : OfMap c territoryIds)
    (cell : Cell) : list.countP (fun id => decide (cell = c.grid.cellOf id)) = if territory c territoryIds cell then 1 else 0 := by
  have same : ∀ id ∈ list, decide (cell = c.grid.cellOf id) = true ↔ (territory c territoryIds cell && id == c.grid.number cell) = true := by
    intro id mem
    have its := (listed id).mp mem
    rw [decide_eq_true_iff,Bool.and_eq_true,beq_iff_eq,territory_iff]
    constructor
    · rintro rfl
      rw [Grid.number_cellOf]
      exact ⟨⟨Grid.cellOf_inside (ofMap id its).1 (ofMap id its).2,its⟩,rfl⟩
    · rintro ⟨⟨inside,_⟩,rfl⟩
      exact (Grid.cellOf_number inside.1.1 inside.1.2).symm
  rw [List.countP_congr same]
  cases mem : territory c territoryIds cell with
  | false => simp
  | true =>
    simp only [Bool.true_and,if_true]
    exact List.count_eq_one_of_mem distinct ((listed _).mpr (territory_iff.mp mem).2)

theorem poses_count (ofMap : OfMap c territoryIds) (inner : Inner c territoryIds) (order : Order Int) (p : Int × Int) :
    ((order.visit territoryIds.keys).flatMap (vertexPoses c c.xSum)).count (cornerPos c p) = numAt c territoryIds p := by
  have listed (id : Int) : id ∈ order.visit territoryIds.keys ↔ id ∈ territoryIds := order.mem_visit.trans AList.mem_keys.symm
  have distinct := order.nodup_visit territoryIds.keys_nodup
  rw [count_poses (fun id mem => ofMap id ((listed id).mp mem)) (fun id mem => inner id ((listed id).mp mem))]
  simp only [countP_cell distinct listed ofMap,numAt,List.countP_cons,List.countP_nil]
  omega

theorem poses_corner (ofMap : OfMap c territoryIds) (inner : Inner c territoryIds) (order : Order Int) {pos : Pos}
    (mem : pos ∈ (order.visit territoryIds.keys).flatMap (vertexPoses c c.xSum)) : ∃ p, pos = cornerPos c p := by
  obtain ⟨id,its,corner⟩ := (mem_vertexPoses c order territoryIds c.xSum pos).mp mem
  rw [vertexPoses_inner (Grid.cellOf_inside (ofMap id its).1 (ofMap id its).2) (inner id its),square_corners] at corner
  simp only [List.mem_cons,List.not_mem_nil,or_false] at corner
  rcases corner with rfl | rfl | rfl | rfl <;> exact ⟨_,rfl⟩

-- The table with the points that are used.
structure Marked (c : Config) (territoryIds : Territories) (used : Finset (Int × Int)) (territoryPos : TerritoryPos) : Prop where
  found : ∀ p, territoryPos.find (cornerPos c p).1 (cornerPos c p).2 =
    if numAt c territoryIds p = 0 then none else some ⟨numAt c territoryIds p,decide (p ∈ used)⟩
  corner : ∀ pos useInfo, territoryPos.find pos.1 pos.2 = some useInfo → ∃ p, pos = cornerPos c p

theorem all_marked (ofMap : OfMap c territoryIds) (inner : Inner c territoryIds) (order : Order Int) :
    Marked c territoryIds ∅ (getAllTerritoryVertexPoses c order territoryIds c.xSum) := by
  constructor
  · intro p
    rw [find_vertexPoses,poses_count ofMap inner,← poses_count ofMap inner order]
    by_cases mem : cornerPos c p ∈ (order.visit territoryIds.keys).flatMap (vertexPoses c c.xSum)
    · rw [if_pos mem,if_neg (List.count_pos_iff.mpr mem).ne',decide_eq_false (Finset.notMem_empty p)]
    · rw [if_neg mem,if_pos (List.count_eq_zero_of_not_mem mem)]
  · intro pos useInfo found
    rw [find_vertexPoses] at found
    split at found
    next mem => exact poses_corner ofMap inner order mem
    next => cases found

theorem Marked.setUse {used : Finset (Int × Int)} {territoryPos : TerritoryPos} (marked : Marked c territoryIds used territoryPos) (p : Int × Int) :
    Marked c territoryIds (insert p used) (setUse territoryPos (cornerPos c p)) := by
  have looked (pos : Pos) : (GuildTerritoryLogic.setUse territoryPos (cornerPos c p)).find pos.1 pos.2 =
      if pos = cornerPos c p then (territoryPos.find pos.1 pos.2).map (fun useInfo => {useInfo with use:=true}) else territoryPos.find pos.1 pos.2 := by
    unfold GuildTerritoryLogic.setUse
    rw [NestedTable.find_adjust]
    exact if_congr Prod.ext_iff.symm rfl rfl
  constructor
  · intro q
    rw [looked,marked.found q]
    simp only [cornerPos_inj,Finset.mem_insert]
    by_cases same : q = p
    · simp only [same,if_true,true_or,decide_true]
      split <;> rfl
    · simp only [same,if_false,false_or]
  · intro pos useInfo found
    rw [looked] at found
    split at found
    next same => exact ⟨p,same⟩
    next => exact marked.corner pos useInfo found

end table

section lines
variable {c : Config} {territoryIds : Territories} {p : Int × Int} {x y : Int}

theorem tileAlong_corner (c : Config) (k : Int) : tileAlong (c.side true) ((k*c.territorySizeMin : Int) : ℚ) = max 0 (k-1) := by
  have positive := (size_rat c).ne'
  rw [tileAlong,side_size,Int.cast_mul,Int.cast_natCast,mul_div_cancel_right₀ _ positive,Int.ceil_intCast]

theorem posId_corner (left : 0 ≤ p.1) (low : 0 ≤ p.2) : posId c (cornerPos c p) = c.grid.number (max 0 (p.1-1),max 0 (p.2-1)) := by
  have size := (size_int c).le
  unfold posId
  refine Eq.trans (getPosTerritoryId_tile ?_ ?_) (congrArg _ (Prod.ext (tileAlong_corner c p.1) (tileAlong_corner c p.2)))
  · exact Int.cast_nonneg (mul_nonneg left size)
  · exact Int.cast_nonneg (mul_nonneg low size)

theorem kingdomMapLength_eq (c : Config) : (c.kingdomMapLength : Int) = c.xSum*c.territorySizeMin := by
  exact_mod_cast (Nat.div_mul_cancel c.length_dvd).symm

theorem kingdomMapWidth_eq (c : Config) : (c.kingdomMapWidth : Int) = c.ySum*c.territorySizeMin := by
  exact_mod_cast (Nat.div_mul_cancel c.width_dvd).symm

theorem isMapSidePos_corner (c : Config) (p : Int × Int) :
    isMapSidePos c (cornerPos c p) = decide (p.1 = 0 ∨ p.1 = c.xSum ∨ p.2 = 0 ∨ p.2 = c.ySum) := by
  have positive := (size_int c).ne'
  rw [Bool.eq_iff_iff,decide_eq_true_iff]
  simp only [isMapSidePos,cornerPos,Bool.or_eq_true,beq_iff_eq,kingdomMapLength_eq,kingdomMapWidth_eq,mul_left_inj' positive,
    mul_eq_zero,positive,or_false,or_assoc]

theorem separates_comm (pos nextPos : Pos) (territoryId beside : Int) :
    separates c territoryIds pos nextPos territoryId beside = separates c territoryIds nextPos pos territoryId beside := by
  unfold separates
  rw [Bool.and_comm]

theorem separates_side (sides : isMapSidePos c (cornerPos c p) = true) {q : Int × Int} (sideToo : isMapSidePos c (cornerPos c q) = true)
    (territoryId beside : Int) :
    separates c territoryIds (cornerPos c p) (cornerPos c q) territoryId beside = decide (territoryId ∈ territoryIds) := by
  unfold separates
  rw [sides,sideToo]
  rfl

theorem separates_inside {q : Int × Int} (off : ¬ (isMapSidePos c (cornerPos c p) = true ∧ isMapSidePos c (cornerPos c q) = true))
    (territoryId beside : Int) : separates c territoryIds (cornerPos c p) (cornerPos c q) territoryId beside =
      (decide (territoryId ∈ territoryIds) != decide (beside ∈ territoryIds)) := by
  unfold separates
  rw [if_neg (by rwa [Bool.and_eq_true])]
  cases decide (territoryId ∈ territoryIds) <;> cases decide (beside ∈ territoryIds) <;> rfl

-- A line upwards between two tiles, or on the left side of the map; with one row alone all would be sides.
theorem separates_up (rows : 2 ≤ c.ySum) (left : 0 ≤ x) (right : x < c.xSum) (low : 0 ≤ y) (high : y+1 ≤ c.ySum) :
    separates c territoryIds (cornerPos c (x,y)) (cornerPos c (x,y+1)) (posId c (cornerPos c (x,y+1))) (posId c (cornerPos c (x,y+1))+1) =
      border (territory c territoryIds) ((x,y),.up) := by
  have height : (c.grid.rows : Int) = c.ySum := rfl
  have width : (c.grid.columns : Int) = c.xSum := rfl
  have its : posId c (cornerPos c (x,y+1)) = c.grid.number (max 0 (x-1),y) := by
    rw [posId_corner left (by omega : 0 ≤ y+1)]
    rw [show max 0 (y+1-1) = y by omega]
  have here : c.grid.Inside (x,y) := ⟨⟨left,right⟩,low,by rw [height]; dsimp only; omega⟩
  rw [its,border_straight]
  change _ = (territory c territoryIds (x-1,y) != territory c territoryIds (x,y))
  by_cases first : x = 0
  · subst first
    have outside : ¬ c.grid.Inside (0-1,y) := fun inside => absurd inside.1.1 (by dsimp only; omega)
    rw [separates_side (by rw [isMapSidePos_corner]; exact decide_eq_true (.inl rfl)) (by rw [isMapSidePos_corner]; exact decide_eq_true (.inl rfl)),
      territory_outside outside,territory_inside here,Bool.false_bne]
    rfl
  · have there : c.grid.Inside (x-1,y) := ⟨⟨by dsimp only; omega,by rw [width]; dsimp only; omega⟩,here.2⟩
    rw [separates_inside (by simp only [isMapSidePos_corner,decide_eq_true_iff]; omega),show max 0 (x-1) = x-1 by omega,
      territory_inside there,territory_inside here,Grid.number_right,show x-1+1 = x by omega]

theorem separates_left (rows : 2 ≤ c.ySum) (left : 0 < x) (right : x < c.xSum) (low : 0 ≤ y) (high : y ≤ c.ySum) :
    separates c territoryIds (cornerPos c (x,y)) (cornerPos c (x-1,y)) (posId c (cornerPos c (x,y))) (posId c (cornerPos c (x,y))+c.xSum) =
      border (territory c territoryIds) ((x,y),.left) := by
  have height : (c.grid.rows : Int) = c.ySum := rfl
  have width : (c.grid.columns : Int) = c.xSum := rfl
  have its : posId c (cornerPos c (x,y)) = c.grid.number (x-1,max 0 (y-1)) := by
    rw [posId_corner (show 0 ≤ (x,y).1 from left.le) low]
    dsimp only
    rw [show max 0 (x-1) = x-1 by omega]
  have column : 0 ≤ (x-1) ∧ x-1 < c.grid.columns := by omega
  rw [its,border_straight]
  change _ = (territory c territoryIds (x-1,y-1) != territory c territoryIds (x-1,y))
  by_cases bottom : y = 0
  · subst bottom
    have outside : ¬ c.grid.Inside (x-1,0-1) := fun inside => absurd inside.2.1 (by dsimp only; omega)
    have here : c.grid.Inside (x-1,0) := ⟨column,low,by rw [height]; dsimp only; omega⟩
    rw [separates_side (by simp [isMapSidePos_corner]) (by simp [isMapSidePos_corner]),territory_outside outside,territory_inside here,Bool.false_bne]
    rfl
  · have below : c.grid.Inside (x-1,y-1) := ⟨column,by dsimp only; omega,by rw [height]; dsimp only; omega⟩
    rw [show max 0 (y-1) = y-1 by omega,territory_inside below]
    by_cases top : y = c.ySum
    · have outside : ¬ c.grid.Inside (x-1,y) := fun inside => absurd inside.2.2 (by rw [height]; dsimp only; omega)
      rw [separates_side (by simp [isMapSidePos_corner,top]) (by simp [isMapSidePos_corner,top]),territory_outside outside,Bool.bne_false]
    · have above : c.grid.Inside (x-1,y) := ⟨column,low,by rw [height]; dsimp only; omega⟩
      have up : c.grid.number (x-1,y-1)+c.xSum*1 = c.grid.number (x-1,y-1+1) := Grid.number_up c.grid (x-1,y-1) 1
      rw [mul_one,show y-1+1 = y by omega] at up
      rw [separates_inside (by simp only [isMapSidePos_corner,decide_eq_true_iff]; omega),territory_inside above,up]

theorem nextPos_corner (c : Config) (p : Int × Int) (d : Direction) :
    getTerritoryNextPos (cornerPos c p) c.territorySizeMin d = cornerPos c (d.step p) := by
  cases d <;> simp only [getTerritoryNextPos,cornerPos,Direction.step,add_mul,sub_mul,one_mul]

theorem isGuildTerritoryLine_border (rows : 2 ≤ c.ySum) (inner : Inner c territoryIds) {d : Direction} (here : numAt c territoryIds p ≠ 0)
    (there : numAt c territoryIds (d.step p) ≠ 0) :
    isGuildTerritoryLine c territoryIds c.xSum (cornerPos c p) (cornerPos c (d.step p)) d = border (territory c territoryIds) (p,d) := by
  obtain ⟨⟨left,right⟩,low,high⟩ := numAt_bounds inner here
  obtain ⟨⟨left',right'⟩,low',high'⟩ := numAt_bounds inner there
  obtain ⟨x,y⟩ := p
  cases d with
  | left => exact separates_left rows (by dsimp only [Direction.step] at left'; omega) right low high
  | up => exact separates_up rows left right low high'
  | right =>
    rw [← border_reverse]
    have back := @separates_left c territoryIds (x+1) y rows (by dsimp only at left; omega) right' low high
    rw [add_sub_cancel_right] at back
    exact (separates_comm _ _ _ _).trans back
  | down =>
    rw [← border_reverse]
    have back := @separates_up c territoryIds x (y-1) rows left right low' (by dsimp only at high; omega)
    rw [sub_add_cancel] at back
    exact (separates_comm _ _ _ _).trans back

end lines
end OriginGame.GuildTerritoryLogic
