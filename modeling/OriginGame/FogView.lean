import OriginGame.FogCells

namespace OriginGame.DenseFog

section loops
variable {fog : Fog}

theorem mem_see {seen : Table Int Rule} {i j : Int} : i ∈ see fog seen j ↔ i ∈ seen ∨ i = j := by
  unfold see
  split
  next rule found =>
    constructor
    · exact .inl
    · rintro (there | rfl)
      · exact there
      · exact Table.mem_of_lookup found
  next => rw [AList.mem_insert,or_comm]

-- The first three loops take every index from 1 on.
theorem mem_viewLoop (places : List Pos) (before : Int × Table Int Rule) (i : Int) :
    i ∈ (viewLoop fog places before).2 ↔ i ∈ before.2 ∨ 1 ≤ i ∧ ∃ p ∈ places, getDenseFogIndexByPos p = i := by
  unfold viewLoop
  induction places generalizing before with
  | nil => simp
  | cons p rest ih =>
    rw [List.foldl_cons,ih]
    dsimp only
    split
    next positive =>
      rw [mem_see,List.exists_mem_cons_iff]
      constructor
      · rintro ((there | rfl) | ⟨one,later⟩)
        · exact .inl there
        · exact .inr ⟨positive,.inl rfl⟩
        · exact .inr ⟨one,.inr later⟩
      · rintro (there | ⟨_,here | later⟩)
        · exact .inl (.inl there)
        · exact .inl (.inr here.symm)
        · exact .inr ⟨by assumption,later⟩
    next low =>
      rw [List.exists_mem_cons_iff]
      constructor
      · rintro (there | ⟨one,later⟩)
        · exact .inl there
        · exact .inr ⟨one,.inr later⟩
      · rintro (there | ⟨one,here | later⟩)
        · exact .inl there
        · exact absurd (here ▸ one) low
        · exact .inr ⟨one,later⟩

theorem viewLoop_last (places : List Pos) (before : Int × Table Int Rule) (some : places ≠ [])
    (positive : ∀ p ∈ places, 1 ≤ getDenseFogIndexByPos p) : 1 ≤ (viewLoop fog places before).1 := by
  unfold viewLoop
  cases places with
  | nil => exact absurd rfl some
  | cons p rest =>
    rw [List.foldl_cons]
    refine List.foldlRecOn (motive:=fun state : Int × Table Int Rule => 1 ≤ state.1) rest _ (positive p List.mem_cons_self) ?_
    intro state _ q later
    exact positive q (List.mem_cons_of_mem p later)

theorem viewLastLoop_keeps (places : List Pos) (before : Int × Table Int Rule) {i : Int} (there : i ∈ before.2) :
    i ∈ (viewLastLoop fog places before).2 := by
  refine List.foldlRecOn (motive:=fun state : Int × Table Int Rule => i ∈ state.2) places _ there ?_
  intro state kept p _
  split
  · exact mem_see.mpr (.inl kept)
  · exact kept

-- While the indexes stay above zero the last loop takes them like the others.
theorem mem_viewLastLoop (places : List Pos) (before : Int × Table Int Rule) (start : 1 ≤ before.1)
    (positive : ∀ p ∈ places, 1 ≤ getDenseFogIndexByPos p) (i : Int) :
    i ∈ (viewLastLoop fog places before).2 ↔ i ∈ before.2 ∨ ∃ p ∈ places, getDenseFogIndexByPos p = i := by
  unfold viewLastLoop
  induction places generalizing before with
  | nil => simp
  | cons p rest ih =>
    rw [List.foldl_cons,if_pos start,ih _ (positive p List.mem_cons_self) (fun q later => positive q (List.mem_cons_of_mem p later)),
      mem_see,List.exists_mem_cons_iff]
    constructor
    · rintro ((there | rfl) | later)
      · exact .inl there
      · exact .inr (.inl rfl)
      · exact .inr (.inr later)
    · rintro (there | here | later)
      · exact .inl (.inl there)
      · exact .inl (.inr here.symm)
      · exact .inr later

-- The test is about the round before, so the first index below one is taken as well.
theorem viewLastLoop_low (places : List Pos) (before : Int × Table Int Rule) (start : 1 ≤ before.1)
    (low : ∃ p ∈ places, getDenseFogIndexByPos p < 1) : ∃ i ∈ (viewLastLoop fog places before).2, i < 1 := by
  unfold viewLastLoop
  induction places generalizing before with
  | nil =>
    obtain ⟨p,none,_⟩ := low
    cases none
  | cons p rest ih =>
    rw [List.foldl_cons,if_pos start]
    by_cases here : getDenseFogIndexByPos p < 1
    · exact ⟨_,viewLastLoop_keeps rest _ (mem_see.mpr (.inr rfl)),here⟩
    · apply ih _ (not_lt.mp here)
      obtain ⟨q,there,below⟩ := low
      rcases List.mem_cons.mp there with rfl | later
      · exact absurd below here
      · exact ⟨q,later,below⟩

end loops

section view
variable {pos : Pos} {fog : Fog}

-- A point of the sampling grid: steps of 100 up to one cell size in each direction.
def Samples (pos p : Pos) : Prop := ∃ m n : Int, |m| ≤ 18 ∧ |n| ≤ 18 ∧ p.x = pos.x+100*m ∧ p.y = pos.y+100*n

theorem mem_quarter {right up : Rat} (horizontal : right = 1 ∨ right = -1) (vertical : up = 1 ∨ up = -1) {p : Pos} :
    p ∈ quarter pos right up ↔ ∃ m n : Nat, m ≤ 18 ∧ n ≤ 18 ∧ p.x = pos.x+100*(right*m) ∧ p.y = pos.y+100*(up*n) := by
  have steps {v side : Rat} (direction : side = 1 ∨ side = -1) (k : Nat) : (k : Rat) ≤ (v+side*desenFogSize-v)/(side*100) ↔ k ≤ 18 := by
    have ratio : (v+side*desenFogSize-v)/(side*100) = 18 := by rcases direction with rfl | rfl <;> simp only [desenFogSize] <;> ring
    rw [ratio]
    exact_mod_cast Iff.rfl
  unfold quarter
  simp only [List.mem_flatMap,List.mem_map,mem_forLoop,steps horizontal,steps vertical]
  constructor
  · rintro ⟨x,⟨m,rfl,few⟩,y,⟨n,rfl,less⟩,rfl⟩
    exact ⟨m,n,few,less,by ring,by ring⟩
  · rintro ⟨m,n,few,less,x,y⟩
    refine ⟨p.x,⟨m,by rw [x]; ring,few⟩,p.y,⟨n,by rw [y]; ring,less⟩,rfl⟩

theorem quarter_samples {right up : Rat} (horizontal : right = 1 ∨ right = -1) (vertical : up = 1 ∨ up = -1) {p : Pos}
    (there : p ∈ quarter pos right up) : Samples pos p := by
  obtain ⟨m,n,few,less,x,y⟩ := (mem_quarter horizontal vertical).mp there
  have signed {side : Rat} (direction : side = 1 ∨ side = -1) {k : Nat} (bound : k ≤ 18) : ∃ j : Int, |j| ≤ 18 ∧ (j : Rat) = side*k := by
    rcases direction with rfl | rfl
    · refine ⟨k,abs_le.mpr ⟨by omega,by omega⟩,?_⟩
      push_cast
      ring
    · refine ⟨-k,abs_le.mpr ⟨by omega,by omega⟩,?_⟩
      push_cast
      ring
  obtain ⟨i,small,same⟩ := signed horizontal few
  obtain ⟨j,little,too⟩ := signed vertical less
  exact ⟨i,j,small,little,by rw [x,same],by rw [y,too]⟩

theorem samples_quarter {p : Pos} (sample : Samples pos p) :
    p ∈ quarter pos 1 1 ∨ p ∈ quarter pos (-1) (-1) ∨ p ∈ quarter pos (-1) 1 ∨ p ∈ quarter pos 1 (-1) := by
  obtain ⟨m,n,few,less,x,y⟩ := sample
  simp only [mem_quarter (.inl rfl) (.inl rfl),mem_quarter (.inl rfl) (.inr rfl),mem_quarter (.inr rfl) (.inl rfl),mem_quarter (.inr rfl) (.inr rfl)]
  have unsigned {j : Int} (bound : |j| ≤ 18) : (∃ k : Nat, k ≤ 18 ∧ (j : Rat) = 1*k) ∨ ∃ k : Nat, k ≤ 18 ∧ (j : Rat) = -1*k := by
    have limits := abs_le.mp bound
    rcases j.eq_nat_or_neg with ⟨k,rfl | rfl⟩
    · refine .inl ⟨k,by omega,?_⟩
      push_cast
      ring
    · refine .inr ⟨k,by omega,?_⟩
      push_cast
      ring
  rcases unsigned few with ⟨i,small,one⟩ | ⟨i,small,one⟩ <;> rcases unsigned less with ⟨j,little,two⟩ | ⟨j,little,two⟩ <;> rw [one] at x <;> rw [two] at y
  · exact .inl ⟨i,j,small,little,x,y⟩
  · exact .inr (.inr (.inr ⟨i,j,small,little,x,y⟩))
  · exact .inr (.inr (.inl ⟨i,j,small,little,x,y⟩))
  · exact .inr (.inl ⟨i,j,small,little,x,y⟩)

theorem quarter_some {right up : Rat} (horizontal : right = 1 ∨ right = -1) (vertical : up = 1 ∨ up = -1) : quarter pos right up ≠ [] := by
  intro none
  have corner : pos ∈ quarter pos right up := (mem_quarter horizontal vertical).mpr ⟨0,0,by omega,by omega,by simp,by simp⟩
  rw [none] at corner
  cases corner

-- What the first three loops leave.
def threeLoops (pos : Pos) (fog : Fog) : Int × Table Int Rule :=
  viewLoop fog (quarter pos (-1) 1) (viewLoop fog (quarter pos (-1) (-1)) (viewLoop fog (quarter pos 1 1) (0,∅)))

theorem view_eq (pos : Pos) (fog : Fog) : getDenseFogWithScoutView pos fog = (viewLastLoop fog (quarter pos 1 (-1)) (threeLoops pos fog)).2 := rfl

theorem mem_threeLoops {i : Int} : i ∈ (threeLoops pos fog).2 ↔ 1 ≤ i ∧
    ((∃ p ∈ quarter pos 1 1, getDenseFogIndexByPos p = i) ∨ (∃ p ∈ quarter pos (-1) (-1), getDenseFogIndexByPos p = i) ∨
      ∃ p ∈ quarter pos (-1) 1, getDenseFogIndexByPos p = i) := by
  unfold threeLoops
  simp only [mem_viewLoop]
  have none : i ∉ (∅ : Table Int Rule) := AList.notMem_empty i
  simp [none,and_or_left,or_assoc]

theorem threeLoops_last (positive : ∀ p ∈ quarter pos (-1) 1, 1 ≤ getDenseFogIndexByPos p) : 1 ≤ (threeLoops pos fog).1 :=
  viewLoop_last _ _ (quarter_some (.inr rfl) (.inl rfl)) positive

-- The indexes of the cells that the points of the grid on the map lie in.
def InView (pos : Pos) (i : Int) : Prop := ∃ cell : Cell, cell.index = i ∧ ∃ p, Samples pos p ∧ InMap p ∧ cell.Has p

structure ViewRight (pos : Pos) (fog : Fog) : Prop where
  keys : ∀ i, i ∈ getDenseFogWithScoutView pos fog ↔ InView pos i
  rules : ∀ i rule, (getDenseFogWithScoutView pos fog).lookup i = some rule → rule = getSmallFogRule fog i

-- The whole grid is on the map.
def Clear (pos : Pos) : Prop := desenFogSize ≤ pos.x ∧ pos.x+desenFogSize ≤ mapSize ∧ desenFogSize ≤ pos.y ∧ pos.y+desenFogSize < mapSize

theorem Samples.within {p : Pos} (sample : Samples pos p) :
    pos.x-desenFogSize ≤ p.x ∧ p.x ≤ pos.x+desenFogSize ∧ pos.y-desenFogSize ≤ p.y ∧ p.y ≤ pos.y+desenFogSize := by
  obtain ⟨m,n,few,less,x,y⟩ := sample
  obtain ⟨m_low,m_high⟩ := abs_le.mp few
  obtain ⟨n_low,n_high⟩ := abs_le.mp less
  have one : (-18 : Rat) ≤ m := by exact_mod_cast m_low
  have two : (m : Rat) ≤ 18 := by exact_mod_cast m_high
  have three : (-18 : Rat) ≤ n := by exact_mod_cast n_low
  have four : (n : Rat) ≤ 18 := by exact_mod_cast n_high
  rw [x,y]
  simp only [desenFogSize]
  refine ⟨?_,?_,?_,?_⟩ <;> linarith

theorem Clear.inMap {p : Pos} (clear : Clear pos) (sample : Samples pos p) : InMap p := by
  obtain ⟨left,right,bottom,top⟩ := clear
  obtain ⟨p_left,p_right,p_bottom,p_top⟩ := sample.within
  refine ⟨?_,?_,?_,?_⟩ <;> linarith

theorem Clear.positive {p : Pos} (clear : Clear pos) (sample : Samples pos p) : 1 ≤ getDenseFogIndexByPos p := by
  obtain ⟨cell,has⟩ := (clear.inMap sample).has
  rw [has.index_eq]
  exact cell.index_bounds.1

theorem clear_keys (clear : Clear pos) (i : Int) : i ∈ getDenseFogWithScoutView pos fog ↔ InView pos i := by
  have last : 1 ≤ (threeLoops pos fog).1 := threeLoops_last (fun p there => clear.positive (quarter_samples (.inr rfl) (.inl rfl) there))
  rw [view_eq,mem_viewLastLoop _ _ last (fun p there => clear.positive (quarter_samples (.inl rfl) (.inr rfl) there)),mem_threeLoops]
  constructor
  · intro taken
    have sampled : ∃ p, Samples pos p ∧ getDenseFogIndexByPos p = i := by
      rcases taken with ⟨_,⟨p,there,index⟩ | ⟨p,there,index⟩ | ⟨p,there,index⟩⟩ | ⟨p,there,index⟩
      · exact ⟨p,quarter_samples (.inl rfl) (.inl rfl) there,index⟩
      · exact ⟨p,quarter_samples (.inr rfl) (.inr rfl) there,index⟩
      · exact ⟨p,quarter_samples (.inr rfl) (.inl rfl) there,index⟩
      · exact ⟨p,quarter_samples (.inl rfl) (.inr rfl) there,index⟩
    obtain ⟨p,sample,index⟩ := sampled
    have inside := clear.inMap sample
    obtain ⟨cell,has⟩ := inside.has
    exact ⟨cell,has.index_eq.symm.trans index,p,sample,inside,has⟩
  · rintro ⟨cell,rfl,p,sample,_,has⟩
    rcases samples_quarter sample with there | there | there | there
    · exact .inl ⟨cell.index_bounds.1,.inl ⟨p,there,has.index_eq⟩⟩
    · exact .inl ⟨cell.index_bounds.1,.inr (.inl ⟨p,there,has.index_eq⟩)⟩
    · exact .inl ⟨cell.index_bounds.1,.inr (.inr ⟨p,there,has.index_eq⟩)⟩
    · exact .inr ⟨p,there,has.index_eq⟩

end view

section edges
variable {pos : MapPos} {fog : Fog}

-- The point a cell size away in the quarter.
theorem corner {right up : Rat} (horizontal : right = 1 ∨ right = -1) (vertical : up = 1 ∨ up = -1) (pos : Pos) :
    (⟨pos.x+right*desenFogSize,pos.y+up*desenFogSize⟩ : Pos) ∈ quarter pos right up := by
  refine (mem_quarter horizontal vertical).mpr ⟨18,18,le_rfl,le_rfl,?_,?_⟩ <;> simp only [desenFogSize] <;> push_cast <;> ring

theorem beside {right up : Rat} (horizontal : right = 1 ∨ right = -1) (vertical : up = 1 ∨ up = -1) (pos : Pos) :
    (⟨pos.x+right*desenFogSize,pos.y⟩ : Pos) ∈ quarter pos right up := by
  refine (mem_quarter horizontal vertical).mpr ⟨18,0,le_rfl,by omega,?_,?_⟩ <;> simp only [desenFogSize] <;> push_cast <;> ring

theorem above {right up : Rat} (horizontal : right = 1 ∨ right = -1) (vertical : up = 1 ∨ up = -1) (pos : Pos) :
    (⟨pos.x,pos.y+up*desenFogSize⟩ : Pos) ∈ quarter pos right up := by
  refine (mem_quarter horizontal vertical).mpr ⟨0,18,by omega,le_rfl,?_,?_⟩ <;> simp only [desenFogSize] <;> push_cast <;> ring

theorem view_keeps {i : Int} (taken : i ∈ (threeLoops pos.toPos fog).2) : i ∈ getDenseFogWithScoutView pos.toPos fog :=
  viewLastLoop_keeps _ _ taken

-- Left of the map the column is 0, the last one of the row below.
theorem left_wrong (near : pos.x < desenFogSize) : ∃ i ∈ getDenseFogWithScoutView pos.toPos fog, ¬InView pos.toPos i := by
  have x_nonneg := pos.x_nonneg
  have y_nonneg := pos.y_nonneg
  let p : Pos := ⟨pos.x+-1*desenFogSize,pos.y+1*desenFogSize⟩
  have column : columnOf p.x = 0 := by
    apply columnOf_left <;> simp only [p,desenFogSize,mapSize] at * <;> push_cast <;> linarith
  have row : 1 ≤ (p.y/desenFogSize).floor := Rat.le_floor_iff.mpr (by simp only [p,desenFogSize] at *; push_cast; linarith)
  have index : getDenseFogIndexByPos p = 0+(p.y/desenFogSize).floor*400 := by rw [index_columnOf,column]; rfl
  refine ⟨getDenseFogIndexByPos p,view_keeps (mem_threeLoops.mpr ⟨by omega,.inr (.inr ⟨p,corner (.inr rfl) (.inl rfl) _,rfl⟩)⟩),?_⟩
  rintro ⟨cell,same,q,sample,_,has⟩
  have last := (cell.index_inj 400 ((p.y/desenFogSize).floor-1) (by decide) (by decide) (by omega)).1
  have right := sample.within.2.1
  have left := has.1
  rw [last] at left
  simp only [desenFogSize] at near left right
  push_cast at left
  linarith

-- Right of the map the column is 401, the first one of the row above.
theorem right_wrong (near : mapSize < pos.x+desenFogSize) : ∃ i ∈ getDenseFogWithScoutView pos.toPos fog, ¬InView pos.toPos i := by
  have x_le := pos.x_le
  have y_nonneg := pos.y_nonneg
  let p : Pos := ⟨pos.x+1*desenFogSize,pos.y⟩
  have column : columnOf p.x = 401 := by
    rw [columnOf_right (by simp only [p,desenFogSize,mapSize] at *; linarith)]
    apply ceil_eq <;> simp only [p,desenFogSize,mapSize] at * <;> push_cast <;> linarith
  have row : 0 ≤ (p.y/desenFogSize).floor := Rat.le_floor_iff.mpr (by simp only [p,desenFogSize] at *; push_cast; linarith)
  have index : getDenseFogIndexByPos p = 401+(p.y/desenFogSize).floor*400 := by rw [index_columnOf,column]; rfl
  refine ⟨getDenseFogIndexByPos p,view_keeps (mem_threeLoops.mpr ⟨by omega,.inl ⟨p,beside (.inl rfl) (.inl rfl) _,rfl⟩⟩),?_⟩
  rintro ⟨cell,same,q,sample,_,has⟩
  have first := (cell.index_inj 1 ((p.y/desenFogSize).floor+1) (by decide) (by decide) (by omega)).1
  have left := sample.within.1
  have right := has.2.1
  rw [first] at right
  rcases right with before | ⟨border,_⟩
  · simp only [desenFogSize,mapSize] at near before left
    push_cast at before
    linarith
  · cases border

-- Above the map the indexes go on.
theorem top_wrong (near : mapSize ≤ pos.y+desenFogSize) : ∃ i ∈ getDenseFogWithScoutView pos.toPos fog, ¬InView pos.toPos i := by
  let p : Pos := ⟨pos.x,pos.y+1*desenFogSize⟩
  have column : 1 ≤ columnOf p.x := (columnOf_bounds pos.x_nonneg pos.x_le).1
  have row : 400 ≤ (p.y/desenFogSize).floor := Rat.le_floor_iff.mpr (by simp only [p,desenFogSize,mapSize] at *; push_cast; linarith)
  have index : getDenseFogIndexByPos p = columnOf p.x+(p.y/desenFogSize).floor*400 := index_columnOf p
  refine ⟨getDenseFogIndexByPos p,view_keeps (mem_threeLoops.mpr ⟨by omega,.inl ⟨p,above (.inl rfl) (.inl rfl) _,rfl⟩⟩),?_⟩
  rintro ⟨cell,same,_⟩
  have high := cell.index_bounds.2
  omega

-- Below the map the last loop does not look at the index it has just computed.
theorem bottom_wrong (clear : desenFogSize ≤ pos.x) (near : pos.y < desenFogSize) :
    ∃ i ∈ getDenseFogWithScoutView pos.toPos fog, ¬InView pos.toPos i := by
  have x_nonneg := pos.x_nonneg
  have x_le := pos.x_le
  have y_nonneg := pos.y_nonneg
  let p : Pos := ⟨pos.x,pos.y+-1*desenFogSize⟩
  have column : columnOf p.x ≤ 400 := (columnOf_bounds x_nonneg x_le).2
  have row : (p.y/desenFogSize).floor = -1 := by
    apply row_eq <;> simp only [p,desenFogSize] at * <;> push_cast <;> linarith
  have index : getDenseFogIndexByPos p < 1 := by
    rw [index_columnOf,row]
    simp only [desenFogLineSize]
    omega
  have last : 1 ≤ (threeLoops pos.toPos fog).1 := by
    apply threeLoops_last
    intro q there
    obtain ⟨m,n,few,_,x,y⟩ := (mem_quarter (.inr rfl) (.inl rfl)).mp there
    have small : (m : Rat) ≤ 18 := by exact_mod_cast few
    have some : (0 : Rat) ≤ m := Nat.cast_nonneg m
    have up : (0 : Rat) ≤ n := Nat.cast_nonneg n
    have one : 1 ≤ columnOf q.x := by
      refine (columnOf_bounds ?_ ?_).1 <;> rw [x] <;> simp only [desenFogSize,mapSize] at * <;> linarith
    have two : 0 ≤ (q.y/desenFogSize).floor := Rat.le_floor_iff.mpr (by rw [y]; simp only [desenFogSize] at *; push_cast; linarith)
    rw [index_columnOf]
    simp only [desenFogLineSize]
    omega
  obtain ⟨i,there,low⟩ := viewLastLoop_low (quarter pos.toPos 1 (-1)) (threeLoops pos.toPos fog) last ⟨p,above (.inl rfl) (.inr rfl) _,index⟩
  refine ⟨i,there,?_⟩
  rintro ⟨cell,same,_⟩
  have first := cell.index_bounds.1
  omega

theorem view_right (pos : MapPos) (fog : Fog) : ViewRight pos.toPos fog ↔ Clear pos.toPos := by
  constructor
  · intro right
    have none : ¬∃ i ∈ getDenseFogWithScoutView pos.toPos fog, ¬InView pos.toPos i := by
      rintro ⟨i,there,other⟩
      exact other ((right.keys i).mp there)
    have left : desenFogSize ≤ pos.x := not_lt.mp (fun near => none (left_wrong near))
    refine ⟨left,?_,?_,?_⟩
    · exact not_lt.mp (fun near => none (right_wrong near))
    · exact not_lt.mp (fun near => none (bottom_wrong left near))
    · exact not_le.mp (fun near => none (top_wrong near))
  · intro clear
    exact ⟨clear_keys clear,scoutView_sees pos.toPos fog⟩

-- Near the bottom border of the map the view has the index -397.
theorem bottom_view : ¬ViewRight ⟨3600,900⟩ ∅ := by
  intro right
  let pos : MapPos := ⟨⟨3600,900⟩,by decide,by decide,by decide,by decide⟩
  have wrong : ∃ i ∈ getDenseFogWithScoutView pos.toPos ∅, ¬InView pos.toPos i := bottom_wrong (by decide) (by decide)
  obtain ⟨i,there,other⟩ := wrong
  exact other ((right.keys i).mp there)

end edges

end OriginGame.DenseFog
