import Mathlib.Data.Rat.Floor
import Mathlib.Tactic.Linarith
import Mathlib.Tactic.Ring

namespace OriginGame

-- Cells in rows, numbered from 1, row by row.
structure Grid where
  columns : Nat
  rows : Nat
  wide : 0 < columns
  high : 0 < rows

-- Column and row, from zero.
abbrev Cell := Int × Int

namespace Grid
variable (g : Grid)

def number (cell : Cell) : Int := g.columns*cell.2+cell.1+1

def cellOf (n : Int) : Cell := ((n-1) % g.columns,(n-1) / g.columns)

def Inside (cell : Cell) : Prop := (0 ≤ cell.1 ∧ cell.1 < g.columns) ∧ 0 ≤ cell.2 ∧ cell.2 < g.rows

def last : Cell := (g.columns-1,g.rows-1)

-- The cells have a side in common.
def Beside (cell other : Cell) : Prop :=
  (other.2 = cell.2 ∧ (other.1 = cell.1+1 ∨ other.1 = cell.1-1)) ∨ (other.1 = cell.1 ∧ (other.2 = cell.2+1 ∨ other.2 = cell.2-1))

-- `math.ceil( n / columns )`
def ceilRow (n : Int) : Int := -((-n) / g.columns)

variable {g} {cell other : Cell} {n : Int}

theorem columns_pos (g : Grid) : (0 : Int) < g.columns := Int.natCast_pos.mpr g.wide

theorem number_cellOf (g : Grid) (n : Int) : g.number (g.cellOf n) = n := by
  have split := Int.mul_ediv_add_emod (n-1) g.columns
  unfold number cellOf
  linarith

theorem cellOf_number (left : 0 ≤ cell.1) (right : cell.1 < g.columns) : g.cellOf (g.number cell) = cell := by
  have shifted : g.number cell-1 = cell.1+g.columns*cell.2 := by
    unfold number
    ring
  unfold cellOf
  rw [shifted]
  ext
  · rw [Int.add_mul_emod_self_left]
    exact Int.emod_eq_of_lt left right
  · rw [Int.add_mul_ediv_left _ _ (columns_pos g).ne',Int.ediv_eq_zero_of_lt left right,zero_add]

theorem number_inj (inside : g.Inside cell) (there : g.Inside other) (same : g.number cell = g.number other) : cell = other := by
  rw [← cellOf_number inside.1.1 inside.1.2,same,cellOf_number there.1.1 there.1.2]

-- A cell of the right number in its row is in the grid if its number is one of the grid's.
theorem number_le_iff (left : 0 ≤ cell.1) (right : cell.1 < g.columns) : g.number cell ≤ g.columns*g.rows ↔ cell.2 < g.rows := by
  unfold number
  constructor
  · intro bound
    by_contra above
    have more := mul_le_mul_of_nonneg_left (not_lt.mp above) (columns_pos g).le
    linarith
  · intro below
    have more := mul_le_mul_of_nonneg_left (Int.add_one_le_iff.mpr below) (columns_pos g).le
    linarith

theorem number_pos_iff (left : 0 ≤ cell.1) (right : cell.1 < g.columns) : 0 < g.number cell ↔ 0 ≤ cell.2 := by
  unfold number
  constructor
  · intro bound
    by_contra under
    have more := mul_le_mul_of_nonneg_left (show cell.2 ≤ -1 by omega) (columns_pos g).le
    linarith
  · intro above
    have more := mul_nonneg (columns_pos g).le above
    linarith

theorem number_last (g : Grid) : g.number g.last = g.columns*g.rows := by
  unfold number last
  ring

theorem last_inside (g : Grid) : g.Inside g.last := by
  have wide := g.wide
  have high := g.high
  unfold Inside last
  omega

theorem cellOf_inside (low : 1 ≤ n) (most : n ≤ g.columns*g.rows) : g.Inside (g.cellOf n) := by
  have left : 0 ≤ (g.cellOf n).1 := Int.emod_nonneg _ (columns_pos g).ne'
  have right : (g.cellOf n).1 < g.columns := Int.emod_lt_of_pos _ (columns_pos g)
  refine ⟨⟨left,right⟩,?_,?_⟩
  · rw [← number_pos_iff left right,number_cellOf]
    omega
  · rw [← number_le_iff left right,number_cellOf]
    exact most

theorem number_right (g : Grid) (cell : Cell) (i : Int) : g.number cell+i = g.number (cell.1+i,cell.2) := by
  unfold number
  ring

theorem number_up (g : Grid) (cell : Cell) (i : Int) : g.number cell+g.columns*i = g.number (cell.1,cell.2+i) := by
  unfold number
  ring

theorem ceilRow_eq (g : Grid) (n : Int) : g.ceilRow n = (g.cellOf n).2+1 := by
  have positive := columns_pos g
  have low := Int.emod_nonneg (n-1) positive.ne'
  have most := Int.emod_lt_of_pos (n-1) positive
  have shifted : -n = (g.columns-1-(n-1) % g.columns)+g.columns*(-((n-1) / g.columns+1)) := by
    have split := Int.mul_ediv_add_emod (n-1) g.columns
    linarith
  unfold ceilRow cellOf
  rw [shifted,Int.add_mul_ediv_left _ _ positive.ne',Int.ediv_eq_zero_of_lt (by omega) (by omega)]
  ring

theorem ceilRow_number (left : 0 ≤ cell.1) (right : cell.1 < g.columns) : g.ceilRow (g.number cell) = cell.2+1 := by
  rw [ceilRow_eq,cellOf_number left right]

-- A step to the side stays in the row as long as it stays in the grid.
theorem ceilRow_right (left : 0 ≤ cell.1) (right : cell.1 < g.columns) (i : Int) :
    g.ceilRow (g.number cell+i) = g.ceilRow (g.number cell) ↔ 0 ≤ cell.1+i ∧ cell.1+i < g.columns := by
  have positive := columns_pos g
  rw [ceilRow_number left right,ceilRow_eq]
  have split := number_cellOf g (g.number cell+i)
  have low : 0 ≤ (g.cellOf (g.number cell+i)).1 := Int.emod_nonneg _ positive.ne'
  have most : (g.cellOf (g.number cell+i)).1 < g.columns := Int.emod_lt_of_pos _ positive
  constructor
  · intro same
    have row : (g.cellOf (g.number cell+i)).2 = cell.2 := by omega
    generalize g.cellOf (g.number cell+i) = there at split low most row
    unfold number at split
    rw [row] at split
    constructor <;> linarith
  · rintro ⟨first,short⟩
    rw [number_right,cellOf_number first short]

end Grid
end OriginGame
