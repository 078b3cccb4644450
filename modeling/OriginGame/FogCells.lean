import Mathlib.Algebra.Order.Ring.Rat
import Mathlib.Data.Rat.Floor
import Mathlib.Tactic.Linarith
import OriginGame.FogMirror

namespace OriginGame.DenseFog

-- Enum.MapSize
def mapSize : Rat := 720000

-- A position on the map, its borders included.
structure MapPos extends Pos where
  x_nonneg : 0 ≤ x
  x_le : x ≤ mapSize
  y_nonneg : 0 ≤ y
  y_le : y ≤ mapSize

-- A cell of the map.
structure Cell where
  column : Int
  row : Int
  first : 1 ≤ column
  last : column ≤ desenFogLineSize
  bottom : 0 ≤ row
  top : row < desenFogLineSize

namespace Cell

def index (cell : Cell) : Int := cell.column+cell.row*desenFogLineSize

-- The right border of the map belongs to the last column.
def Has (cell : Cell) (pos : Pos) : Prop :=
  desenFogSize*(cell.column-1) ≤ pos.x ∧ (pos.x < desenFogSize*cell.column ∨ cell.column = desenFogLineSize ∧ pos.x = mapSize) ∧
    desenFogSize*cell.row ≤ pos.y ∧ pos.y < desenFogSize*(cell.row+1)

def centre (cell : Cell) : Pos := ⟨desenFogSize*cell.column-desenFogSize/2,desenFogSize*cell.row+desenFogSize/2⟩

theorem bounds (cell : Cell) : 1 ≤ cell.column ∧ cell.column ≤ 400 ∧ 0 ≤ cell.row ∧ cell.row < 400 :=
  ⟨cell.first,cell.last,cell.bottom,cell.top⟩

theorem index_eq (cell : Cell) : cell.index = cell.column+cell.row*400 := rfl

theorem index_bounds (cell : Cell) : 1 ≤ cell.index ∧ cell.index ≤ 160000 := by
  have bounds := cell.bounds
  rw [index_eq]
  omega

-- No two columns and rows of the map come to the same index.
theorem index_inj (cell : Cell) (column row : Int) (first : 1 ≤ column) (last : column ≤ 400) (same : cell.index = column+row*400) :
    cell.column = column ∧ cell.row = row := by
  have bounds := cell.bounds
  rw [index_eq] at same
  omega

end Cell

section geometry

theorem mem_forLoop {v first last step : Rat} : v ∈ forLoop first last step ↔ ∃ k : Nat, v = first+k*step ∧ (k : Rat) ≤ (last-first)/step := by
  unfold forLoop
  rw [List.mem_map]
  constructor
  · rintro ⟨k,inside,rfl⟩
    refine ⟨k,rfl,?_⟩
    have below : (k : Int) ≤ ((last-first)/step).floor := by
      have := List.mem_range.mp inside
      omega
    exact_mod_cast Rat.le_floor_iff.mp below
  · rintro ⟨k,rfl,bound⟩
    refine ⟨k,List.mem_range.mpr ?_,rfl⟩
    have below : (k : Int) ≤ ((last-first)/step).floor := Rat.le_floor_iff.mpr (by exact_mod_cast bound)
    omega

-- The column getDenseFogIndexByPos takes a place for.
def columnOf (x : Rat) : Int :=
  let cells := x/desenFogSize
  ((if cells.den = 1 ∧ cells.num < desenFogLineSize then x+1/10 else x)/desenFogSize).ceil

theorem index_columnOf (pos : Pos) : getDenseFogIndexByPos pos = columnOf pos.x+(pos.y/desenFogSize).floor*desenFogLineSize := rfl

theorem ceil_eq {q : Rat} {c : Int} (above : (c : Rat)-1 < q) (below : q ≤ c) : q.ceil = c := by
  apply le_antisymm
  · exact Rat.ceil_le_iff.mpr below
  · have strict : c-1 < q.ceil := Rat.lt_ceil_iff.mpr (by exact_mod_cast above)
    omega

theorem floor_eq {q : Rat} {c : Int} (above : (c : Rat) ≤ q) (below : q < c+1) : q.floor = c := by
  apply le_antisymm
  · have strict : q.floor < c+1 := Rat.floor_lt_iff.mpr (by exact_mod_cast below)
    omega
  · exact Rat.le_floor_iff.mpr above

theorem columnOf_left {x : Rat} {c : Int} (left : desenFogSize*(c-1) ≤ x) (right : x < desenFogSize*c) (inside : x < mapSize) : columnOf x = c := by
  simp only [desenFogSize,mapSize] at left right inside
  unfold columnOf
  dsimp only
  split
  next line =>
    simp only [desenFogSize] at line ⊢
    have whole : ((x/1800).num : Rat) = x/1800 := (Rat.den_eq_one_iff _).mp line.1
    have number : (x/1800).num = c-1 := by
      have low : (c : Rat)-1 ≤ (x/1800).num := by
        rw [whole]
        linarith
      have high : ((x/1800).num : Rat) < c := by
        rw [whole]
        linarith
      have below : c-1 ≤ (x/1800).num := by exact_mod_cast low
      have above : (x/1800).num < c := by exact_mod_cast high
      omega
    rw [number] at whole
    push_cast at whole
    apply ceil_eq <;> linarith
  next between =>
    simp only [desenFogSize,desenFogLineSize] at between ⊢
    apply ceil_eq
    · rcases (by linarith : (c : Rat)-1 ≤ x/1800).lt_or_eq with strict | same
      · exact strict
      · exfalso
        apply between
        have number : x/1800 = ((c-1 : Int) : Rat) := by
          push_cast
          exact same.symm
        rw [number]
        have low : (c : Rat)-1 < 400 := by linarith
        have below : c-1 < 400 := by exact_mod_cast low
        exact ⟨Rat.den_intCast _,below⟩
    · linarith

-- Right of the map, or on its border, nothing is moved to the right any more.
theorem columnOf_right {x : Rat} (outside : mapSize ≤ x) : columnOf x = (x/desenFogSize).ceil := by
  unfold columnOf
  dsimp only
  rw [if_neg]
  rintro ⟨line,low⟩
  have whole : ((x/desenFogSize).num : Rat) = x/desenFogSize := (Rat.den_eq_one_iff _).mp line
  have small : ((x/desenFogSize).num : Rat) < 400 := by exact_mod_cast low
  rw [whole] at small
  simp only [mapSize,desenFogSize] at outside small
  linarith

theorem columnOf_border : columnOf mapSize = desenFogLineSize := by
  rw [columnOf_right le_rfl]
  change (mapSize/desenFogSize).ceil = 400
  apply ceil_eq <;> norm_num [mapSize,desenFogSize]

theorem row_eq {y : Rat} {r : Int} (low : desenFogSize*r ≤ y) (high : y < desenFogSize*(r+1)) : (y/desenFogSize).floor = r := by
  simp only [desenFogSize] at low high ⊢
  apply floor_eq <;> linarith

theorem Cell.Has.column_eq {cell : Cell} {pos : Pos} (has : cell.Has pos) : columnOf pos.x = cell.column := by
  obtain ⟨left,right,_,_⟩ := has
  have last : (cell.column : Rat) ≤ 400 := by exact_mod_cast cell.last
  rcases right with before | ⟨border,same⟩
  · refine columnOf_left left before ?_
    simp only [desenFogSize,mapSize] at *
    linarith
  · rw [same,columnOf_border,border]

-- A place that a cell has gets the cell's index.
theorem Cell.Has.index_eq {cell : Cell} {pos : Pos} (has : cell.Has pos) : getDenseFogIndexByPos pos = cell.index := by
  rw [index_columnOf,has.column_eq,row_eq has.2.2.1 has.2.2.2,Cell.index]

-- The places that are in some cell.
def InMap (pos : Pos) : Prop := 0 ≤ pos.x ∧ pos.x ≤ mapSize ∧ 0 ≤ pos.y ∧ pos.y < mapSize

theorem InMap.has {pos : Pos} (inside : InMap pos) : ∃ cell : Cell, cell.Has pos := by
  obtain ⟨left,right,bottom,top⟩ := inside
  have floorX := Rat.floor_le (pos.x/1800)
  have nextX := Rat.lt_floor_add_one (pos.x/1800)
  have floorY := Rat.floor_le (pos.y/1800)
  have nextY := Rat.lt_floor_add_one (pos.y/1800)
  simp only [mapSize] at *
  have firstX : 0 ≤ (pos.x/1800).floor := Rat.le_floor_iff.mpr (by push_cast; linarith)
  have firstY : 0 ≤ (pos.y/1800).floor := Rat.le_floor_iff.mpr (by push_cast; linarith)
  have lastX : (pos.x/1800).floor < 401 := Rat.floor_lt_iff.mpr (by push_cast; linarith)
  have lastY : (pos.y/1800).floor < 400 := Rat.floor_lt_iff.mpr (by push_cast; linarith)
  push_cast at nextX nextY
  by_cases border : pos.x = 720000
  · refine ⟨⟨400,(pos.y/1800).floor,by decide,by decide,firstY,lastY⟩,?_⟩
    refine ⟨?_,.inr ⟨rfl,border⟩,?_,?_⟩
    all_goals
      simp only [desenFogSize]
      push_cast
      linarith
  · have strict : pos.x < 720000 := lt_of_le_of_ne right border
    have below : (pos.x/1800).floor < 400 := Rat.floor_lt_iff.mpr (by push_cast; linarith)
    refine ⟨⟨(pos.x/1800).floor+1,(pos.y/1800).floor,by omega,by simp only [desenFogLineSize]; omega,firstY,lastY⟩,?_⟩
    refine ⟨?_,.inl ?_,?_,?_⟩
    all_goals
      simp only [desenFogSize]
      push_cast
      linarith

theorem columnOf_bounds {x : Rat} (left : 0 ≤ x) (right : x ≤ mapSize) : 1 ≤ columnOf x ∧ columnOf x ≤ 400 := by
  have inside : InMap ⟨x,0⟩ := ⟨left,right,le_rfl,by norm_num [mapSize]⟩
  obtain ⟨cell,has⟩ := inside.has
  have column : columnOf x = cell.column := has.column_eq
  have bounds := cell.bounds
  omega

end geometry

end OriginGame.DenseFog
