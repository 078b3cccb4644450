import OriginGame.FogCells

namespace OriginGame.DenseFog

section square
variable {pos : Pos} {radius : Rat}

def squareSize (radius : Rat) : Int := (radius/desenFogSize).ceil

theorem mem_allDenseFog {i : Int} : i ∈ allDenseFog pos radius ↔ ∃ column row : Int, i = column+row*400 ∧ 1 ≤ column ∧ column ≤ 400 ∧ 0 ≤ row ∧ row < 400 ∧
    max 1 (pos.x/desenFogSize).ceil-squareSize radius ≤ column ∧ column ≤ max 1 (pos.x/desenFogSize).ceil+squareSize radius ∧
    max 0 (pos.y/desenFogSize).floor-squareSize radius ≤ row ∧ row ≤ max 0 (pos.y/desenFogSize).floor+squareSize radius := by
  simp only [allDenseFog,List.mem_flatMap,List.mem_map,mem_forLoopInt,desenFogLineSize]
  change (∃ row, (_ ≤ row ∧ row ≤ _) ∧ ∃ column, (_ ≤ column ∧ column ≤ _) ∧ column+row*400 = i) ↔ _
  generalize max 1 (pos.x/desenFogSize).ceil = x
  generalize max 0 (pos.y/desenFogSize).floor = y
  generalize size : (radius/desenFogSize).ceil = s
  rw [squareSize,size]
  constructor
  · rintro ⟨row,⟨bottom,top⟩,column,⟨left,right⟩,rfl⟩
    refine ⟨column,row,rfl,?_⟩
    omega
  · rintro ⟨column,row,rfl,bounds⟩
    refine ⟨row,?_,column,?_,rfl⟩ <;> omega

theorem Cell.mem_allDenseFog (cell : Cell) : cell.index ∈ allDenseFog pos radius ↔
    max 1 (pos.x/desenFogSize).ceil-squareSize radius ≤ cell.column ∧ cell.column ≤ max 1 (pos.x/desenFogSize).ceil+squareSize radius ∧
    max 0 (pos.y/desenFogSize).floor-squareSize radius ≤ cell.row ∧ cell.row ≤ max 0 (pos.y/desenFogSize).floor+squareSize radius := by
  have bounds := cell.bounds
  rw [DenseFog.mem_allDenseFog]
  constructor
  · rintro ⟨column,row,same,first,last,_,_,inside⟩
    obtain ⟨rfl,rfl⟩ := cell.index_inj _ _ first last same
    exact inside
  · intro inside
    exact ⟨cell.column,cell.row,cell.index_eq,bounds.1,bounds.2.1,bounds.2.2.1,bounds.2.2.2,inside⟩

end square

section opening
variable {fog : Fog} {pos : Pos} {radius : Rat} {j : Int}

theorem opened_openEach (fog : Fog) {i : Int} (positive : 1 ≤ i) (first : 1 ≤ j) (last : j ≤ 160000) :
    Opened (openEach fog i).1 j ↔ Opened fog j ∨ j = i := by
  simp only [openEach]
  split
  · exact opened_openBit fog positive first
  next outside =>
    have above : ¬i ≤ 160000 := by
      intro low
      exact outside ⟨(one_le_save i).mpr positive,(save_le i).mpr low⟩
    constructor
    · exact .inl
    · rintro (was | rfl)
      · exact was
      · exact absurd last above

theorem opened_sweep (fog : Fog) {visit : List Int} (positive : ∀ i ∈ visit, 1 ≤ i) (first : 1 ≤ j) (last : j ≤ 160000) :
    Opened (sweep openEach fog visit).1 j ↔ Opened fog j ∨ j ∈ visit := by
  induction visit generalizing fog with
  | nil => simp [sweep]
  | cons i rest ih =>
    change Opened (sweep openEach (openEach fog i).1 rest).1 j ↔ _
    rw [ih _ (fun k later => positive k (List.mem_cons_of_mem i later)),opened_openEach fog (positive i List.mem_cons_self) first last,
      List.mem_cons,or_assoc]

theorem opened_openSquare (first : 1 ≤ j) (last : j ≤ 160000) :
    Opened (openSquare fog pos radius).1 j ↔ Opened fog j ∨ j ∈ allDenseFog pos radius :=
  opened_sweep fog (fun _ inside => allDenseFog_positive pos radius inside) first last

-- Nothing is stored only when nothing is opened.
theorem opened_stored (fog : Fog) (pos : Pos) (radius : Rat) (noSync : Bool) (positive : 1 ≤ j) :
    Opened ((openDenseFogInPos fog pos radius noSync).denseFog.getD fog) j ↔ Opened (openSquare fog pos radius).1 j := by
  simp only [openDenseFogInPos]
  split
  next nothing =>
    have tells := openSquare_tells fog pos radius j positive
    rw [List.isEmpty_iff.mp nothing] at tells
    simpa using tells.symm
  next => rfl

end opening

section around
variable {pos : MapPos} {radius : Rat} {fog : Fog}

-- The cell a position is in; one on a line between two columns is in the left one here.
theorem home_column (pos : MapPos) : max 1 (pos.x/desenFogSize).ceil ≤ desenFogLineSize := by
  apply max_le
  · decide
  · apply Rat.ceil_le_iff.mpr
    have right := pos.x_le
    simp only [desenFogSize,desenFogLineSize,mapSize] at *
    push_cast
    linarith

theorem home_row (pos : MapPos) : 0 ≤ min (desenFogLineSize-1) (pos.y/desenFogSize).floor := by
  apply le_min
  · decide
  · apply Rat.le_floor_iff.mpr
    have low := pos.y_nonneg
    simp only [desenFogSize] at *
    push_cast
    linarith

theorem home_below (pos : MapPos) : min (desenFogLineSize-1) (pos.y/desenFogSize).floor < desenFogLineSize := by
  have low := min_le_left (desenFogLineSize-1) (pos.y/desenFogSize).floor
  omega

def home (pos : MapPos) : Cell where
  column := max 1 (pos.x/desenFogSize).ceil
  row := min (desenFogLineSize-1) (pos.y/desenFogSize).floor
  first := le_max_left _ _
  last := home_column pos
  bottom := home_row pos
  top := home_below pos

-- A cell with its border.
def Cell.Touches (cell : Cell) (pos : Pos) : Prop :=
  desenFogSize*(cell.column-1) ≤ pos.x ∧ pos.x ≤ desenFogSize*cell.column ∧ desenFogSize*cell.row ≤ pos.y ∧ pos.y ≤ desenFogSize*(cell.row+1)

def Around (centre cell : Cell) (size : Int) : Prop := |cell.column-centre.column| ≤ size ∧ |cell.row-centre.row| ≤ size

structure OpensAround (pos : MapPos) (radius : Rat) (before after : Fog) : Prop where
  clear : ∀ p : Pos, |p.x-pos.x| < radius → |p.y-pos.y| < radius → InMap p → Opened after (getDenseFogIndexByPos p)
  keeps : Keeps before after
  outside : ∀ cell : Cell, ¬Around (home pos) cell (squareSize radius) → (Opened after cell.index ↔ Opened before cell.index)

theorem column_bounds (pos : MapPos) : desenFogSize*((pos.x/desenFogSize).ceil-1 : Rat) < pos.x ∧ pos.x ≤ desenFogSize*(pos.x/desenFogSize).ceil ∧
    0 ≤ (pos.x/desenFogSize).ceil := by
  have low : pos.x/desenFogSize ≤ ((pos.x/desenFogSize).ceil : Rat) := Rat.le_ceil
  have high : ((pos.x/desenFogSize).ceil : Rat) < pos.x/desenFogSize+1 := Rat.ceil_lt
  have nonneg := pos.x_nonneg
  refine ⟨?_,?_,?_⟩
  · simp only [desenFogSize] at *
    linarith
  · simp only [desenFogSize] at *
    linarith
  · have above : (-1 : Int) < (pos.x/desenFogSize).ceil := Rat.lt_ceil_iff.mpr (by simp only [desenFogSize]; push_cast; linarith)
    omega

theorem row_bounds (pos : MapPos) : desenFogSize*((pos.y/desenFogSize).floor : Rat) ≤ pos.y ∧ pos.y < desenFogSize*((pos.y/desenFogSize).floor+1) ∧
    0 ≤ (pos.y/desenFogSize).floor ∧ (pos.y/desenFogSize).floor ≤ 400 := by
  have low := Rat.floor_le (pos.y/desenFogSize)
  have high := Rat.lt_floor_add_one (pos.y/desenFogSize)
  have nonneg := pos.y_nonneg
  have top := pos.y_le
  push_cast at high
  refine ⟨?_,?_,?_,?_⟩
  · simp only [desenFogSize] at *
    linarith
  · simp only [desenFogSize] at *
    linarith
  · exact Rat.le_floor_iff.mpr (by simp only [desenFogSize]; push_cast; linarith)
  · have below : (pos.y/desenFogSize).floor < 401 := Rat.floor_lt_iff.mpr (by simp only [desenFogSize,mapSize] at *; push_cast; linarith)
    omega

theorem squareSize_ge (radius : Rat) : radius ≤ desenFogSize*squareSize radius := by
  have size : radius/desenFogSize ≤ ((radius/desenFogSize).ceil : Rat) := Rat.le_ceil
  rw [squareSize]
  simp only [desenFogSize] at *
  linarith

theorem home_touches (pos : MapPos) : (home pos).Touches pos.toPos := by
  obtain ⟨left,right,first⟩ := column_bounds pos
  obtain ⟨bottom,top,low,high⟩ := row_bounds pos
  have nonneg := pos.x_nonneg
  have border := pos.y_le
  generalize column : (pos.x/desenFogSize).ceil = c at *
  generalize row : (pos.y/desenFogSize).floor = r at *
  have home_column : (home pos).column = max 1 c := by rw [← column]; rfl
  have home_row : (home pos).row = min 399 r := by rw [← row]; rfl
  unfold Cell.Touches
  rw [home_column,home_row]
  simp only [desenFogSize,mapSize] at *
  refine ⟨?_,?_,?_,?_⟩
  · rcases le_total 1 c with some | none
    · rw [max_eq_right some]
      exact left.le
    · rw [max_eq_left none]
      push_cast
      linarith
  · have more : (c : Rat) ≤ ((max 1 c : Int) : Rat) := Int.cast_le.mpr (le_max_right 1 c)
    linarith
  · have less : ((min 399 r : Int) : Rat) ≤ r := Int.cast_le.mpr (min_le_right 399 r)
    linarith
  · rcases le_total 399 r with last | inside
    · rw [min_eq_left last]
      push_cast
      linarith
    · rw [min_eq_right inside]
      exact top.le

-- Between the lines it is the cell of the index.
theorem home_index (between : (pos.x/desenFogSize).den ≠ 1) (below : pos.y < mapSize) : (home pos).index = getDenseFogIndexByPos pos.toPos := by
  have touches := home_touches pos
  have line {c : Int} : pos.x ≠ desenFogSize*c := by
    rintro same
    apply between
    have number : pos.x/desenFogSize = c := by
      rw [same]
      simp only [desenFogSize]
      ring
    rw [number]
    exact Rat.den_intCast c
  obtain ⟨bottom,top,_,high⟩ := row_bounds pos
  have inside : (pos.y/desenFogSize).floor < 400 := Rat.floor_lt_iff.mpr (by simp only [desenFogSize,mapSize] at *; push_cast; linarith)
  have row : (home pos).row = (pos.y/desenFogSize).floor := by
    apply min_eq_right
    simp only [desenFogLineSize]
    omega
  have has : (home pos).Has pos.toPos := by
    refine ⟨touches.1,.inl (lt_of_le_of_ne touches.2.1 line),touches.2.2.1,?_⟩
    rw [row]
    exact top
  exact has.index_eq.symm

theorem covers {p : Pos} (near : |p.x-pos.x| < radius) (level : |p.y-pos.y| < radius) {cell : Cell} (has : cell.Has p) :
    cell.index ∈ allDenseFog pos.toPos radius := by
  obtain ⟨left,right,first⟩ := column_bounds pos
  obtain ⟨bottom,top,low,_⟩ := row_bounds pos
  obtain ⟨p_left,p_right,p_bottom,p_top⟩ := has
  obtain ⟨x_low,x_high⟩ := abs_lt.mp near
  obtain ⟨y_low,y_high⟩ := abs_lt.mp level
  have size := squareSize_ge radius
  have x_le := pos.x_le
  have bounds := cell.bounds
  rw [cell.mem_allDenseFog]
  generalize (pos.x/desenFogSize).ceil = c at *
  generalize (pos.y/desenFogSize).floor = r at *
  simp only [desenFogSize,mapSize] at *
  have some : 0 < squareSize radius := by
    have positive : (0 : Rat) < squareSize radius := by linarith
    exact_mod_cast positive
  have column_high : cell.column-1 < c+squareSize radius := by
    have strict : ((cell.column-1 : Int) : Rat) < ((c+squareSize radius : Int) : Rat) := by
      push_cast
      linarith
    exact Int.cast_lt.mp strict
  have column_low : c-1-squareSize radius < cell.column := by
    rcases p_right with before | ⟨border,_⟩
    · have strict : ((c-1-squareSize radius : Int) : Rat) < (cell.column : Rat) := by
        push_cast
        linarith
      exact Int.cast_lt.mp strict
    · have edge : ((c-1 : Int) : Rat) < (400 : Int) := by
        push_cast
        linarith
      have := Int.cast_lt.mp edge
      simp only [desenFogLineSize] at border
      omega
  have row_high : cell.row < r+1+squareSize radius := by
    have strict : (cell.row : Rat) < ((r+1+squareSize radius : Int) : Rat) := by
      push_cast
      linarith
    exact Int.cast_lt.mp strict
  have row_low : r-squareSize radius < cell.row+1 := by
    have strict : ((r-squareSize radius : Int) : Rat) < ((cell.row+1 : Int) : Rat) := by
      push_cast
      linarith
    exact Int.cast_lt.mp strict
  omega

theorem allDenseFog_around {cell : Cell} (inside : cell.index ∈ allDenseFog pos.toPos radius) : Around (home pos) cell (squareSize radius) := by
  have bounds := cell.bounds
  have row := row_bounds pos
  rw [cell.mem_allDenseFog] at inside
  have home_column : (home pos).column = max 1 (pos.x/desenFogSize).ceil := rfl
  have home_row : (home pos).row = min 399 (pos.y/desenFogSize).floor := rfl
  unfold Around
  rw [abs_le,abs_le,home_column,home_row]
  omega

theorem around_of_opened {after : Fog} (opened : ∀ j, 1 ≤ j → j ≤ 160000 → (Opened after j ↔ Opened fog j ∨ j ∈ allDenseFog pos.toPos radius))
    (keeps : Keeps fog after) : OpensAround pos radius fog after := by
  refine ⟨?_,keeps,?_⟩
  · intro p near level inside
    obtain ⟨cell,has⟩ := inside.has
    have bounds := cell.index_bounds
    rw [has.index_eq]
    exact (opened _ bounds.1 bounds.2).mpr (.inr (covers near level has))
  · intro cell apart
    have bounds := cell.index_bounds
    rw [opened _ bounds.1 bounds.2]
    constructor
    · rintro (was | inside)
      · exact was
      · exact absurd (allDenseFog_around inside) apart
    · exact .inl

-- Of the table that is returned, also for a new role that has none yet, and of what is stored.
theorem open_around (fog : Fog) (pos : MapPos) (radius : Rat) (noSync : Bool) :
    OpensAround pos radius fog (openSquare fog pos.toPos radius).1 ∧
      OpensAround pos radius fog ((openDenseFogInPos fog pos.toPos radius noSync).denseFog.getD fog) := by
  have keeps := (openSquare_tells fog pos.toPos radius).keeps
  constructor
  · exact around_of_opened (fun _ first last => opened_openSquare first last) keeps
  · apply around_of_opened
    · intro j first last
      rw [opened_stored fog pos.toPos radius noSync first]
      exact opened_openSquare first last
    · intro i opened
      rw [← opened_proper,opened_stored fog pos.toPos radius noSync (one_le_proper i),opened_proper]
      exact keeps i opened

end around

end OriginGame.DenseFog
