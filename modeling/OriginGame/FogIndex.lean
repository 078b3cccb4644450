import OriginGame.FogBlocks

namespace OriginGame.DenseFog

-- The rows are taken to be as long as a word of the table.
def getPosByDenseFogIndex (denseFogIndex : Int) : Pos :=
  ⟨((denseFogIndex%64-1 : Int) : Rat)*desenFogSize+desenFogSize/2,((denseFogIndex/64 : Int) : Rat)*desenFogSize+desenFogSize/2⟩

section centres

-- The place of a column and a row is taken for them.
theorem columnOf_middle (column : Int) (x : Rat) (middle : x = ((column-1 : Int) : Rat)*desenFogSize+desenFogSize/2) : columnOf x = column := by
  push_cast at middle
  by_cases inside : x < mapSize
  · apply columnOf_left _ _ inside
    all_goals
      rw [middle]
      simp only [desenFogSize]
      linarith
  · rw [columnOf_right (not_lt.mp inside),middle]
    apply ceil_eq <;> simp only [desenFogSize] <;> linarith

theorem index_middle (column row : Int) : getDenseFogIndexByPos
    ⟨((column-1 : Int) : Rat)*desenFogSize+desenFogSize/2,(row : Rat)*desenFogSize+desenFogSize/2⟩ = column+row*400 := by
  rw [index_columnOf,columnOf_middle column _ rfl,row_eq (r:=row)]
  · rfl
  all_goals
    simp only [desenFogSize]
    linarith

theorem decoded_index (i : Int) : getDenseFogIndexByPos (getPosByDenseFogIndex i) = i%64+i/64*400 :=
  index_middle (i%64) (i/64)

theorem Cell.centre_eq (cell : Cell) : cell.centre =
    ⟨((cell.column-1 : Int) : Rat)*desenFogSize+desenFogSize/2,(cell.row : Rat)*desenFogSize+desenFogSize/2⟩ := by
  unfold centre
  rw [Pos.mk.injEq]
  push_cast
  constructor <;> ring

-- Where a whole number of cells is looked at, each place is the middle of its column and its row.
theorem enumerated_place {n : Nat} {pos : MapPos} {i : Int} {p : Pos} (found : (getAllDenseFogPos n pos.toPos).lookup i = some p) :
    ∃ column row : Int, 1 ≤ column ∧ 0 ≤ row ∧ i = column+row*400 ∧
      p = ⟨((column-1 : Int) : Rat)*desenFogSize+desenFogSize/2,(row : Rat)*desenFogSize+desenFogSize/2⟩ := by
  obtain ⟨q,visited,index,_,rfl⟩ := (collect_collected _ _ _).from_ i p found
  obtain ⟨j,k,one,two,three,_,rfl⟩ := visited_iff.mp visited
  have bounds := first_bounds pos (one.trans_lt two)
  refine ⟨firstColumn n pos.x+j,firstRow n pos.y+k,by omega,by omega,?_,?_⟩
  · rw [← index]
    exact blockIndex_place _ _ _ j k
  · have whole (v : Rat) : blockStart n v = (((v/(n*desenFogSize)).floor*n : Int) : Rat) := by
      unfold blockStart
      push_cast
      rfl
    have column : firstColumn n pos.x = (pos.x/(n*desenFogSize)).floor*n+1 := by
      rw [firstColumn,whole]
      apply ceil_eq <;> push_cast <;> linarith
    have row : firstRow n pos.y = (pos.y/(n*desenFogSize)).floor*n := by
      rw [firstRow,whole]
      apply floor_eq <;> linarith
    rw [column,row,whole,whole,Pos.mk.injEq]
    push_cast
    constructor <;> ring

def Cell.middle (cell : Cell) : MapPos where
  toPos := cell.centre
  x_nonneg := by
    have first : (1 : Rat) ≤ cell.column := by exact_mod_cast cell.first
    simp only [centre,desenFogSize]
    linarith
  x_le := by
    have last : (cell.column : Rat) ≤ 400 := by exact_mod_cast cell.last
    simp only [centre,desenFogSize,mapSize]
    linarith
  y_nonneg := by
    have bottom : (0 : Rat) ≤ cell.row := by exact_mod_cast cell.bottom
    simp only [centre,desenFogSize]
    linarith
  y_le := by
    have top : (cell.row : Rat)+1 ≤ 400 := by exact_mod_cast cell.top
    simp only [centre,desenFogSize,mapSize]
    linarith

end centres

section decoding

structure Decoded (i : Int) : Prop where
  back : getDenseFogIndexByPos (getPosByDenseFogIndex i) = i
  centre : ∀ (scoutView : Nat) (pos : MapPos) (p : Pos), (getAllDenseFogPos scoutView pos.toPos).lookup i = some p → getPosByDenseFogIndex i = p
  cell : ∀ cell : Cell, cell.index = i → getPosByDenseFogIndex i = cell.centre

theorem decoded_low {i : Int} (positive : 1 ≤ i) (low : i ≤ 63) : Decoded i := by
  have column : i%64 = i := by omega
  have row : i/64 = 0 := by omega
  refine ⟨?_,?_,?_⟩
  · rw [decoded_index]
    omega
  · intro scoutView pos p found
    obtain ⟨c,r,first,up,same,rfl⟩ := enumerated_place found
    have bottom : r = 0 := by omega
    have whole : c = i := by omega
    rw [getPosByDenseFogIndex,column,row,bottom,whole]
  · intro cell same
    have place := cell.index_inj i 0 positive (by omega) (by omega)
    rw [getPosByDenseFogIndex,column,row,cell.centre_eq,place.1,place.2]

theorem decoded_right (i : Int) (positive : 1 ≤ i) (last : i ≤ 160000) : Decoded i ↔ i ≤ 63 := by
  constructor
  · intro decoded
    have back := decoded.back
    rw [decoded_index] at back
    omega
  · exact decoded_low positive

theorem decoded_right_first : Decoded 1 :=
  (decoded_right 1 (by decide) (by decide)).mpr (by decide)

-- The last cell of the first word is taken for one of the next row.
theorem decoded_sixty_four : ¬Decoded 64 := by
  intro decoded
  have back := decoded.back
  rw [decoded_index] at back
  revert back
  decide

end decoding

end OriginGame.DenseFog
