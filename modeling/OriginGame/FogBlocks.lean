import OriginGame.FogCells

namespace OriginGame.DenseFog

section tables
variable {xs ys : List Rat} {value : Int → Pos → ν} {i : Int}

def blockIndex (x y : Rat) : Int := (x/desenFogSize).ceil+(y/desenFogSize).floor*desenFogLineSize

-- The loops of getAllDenseFog, for what they store under an index.
def collect (value : Int → Pos → ν) (xs ys : List Rat) : Table Int ν :=
  xs.foldl (fun all x => ys.foldl (fun all y =>
    if 1 ≤ blockIndex x y then all.insert (blockIndex x y) (value (blockIndex x y) ⟨x,y⟩) else all) all) ∅

-- What is stored comes from a place that was visited, and no place is passed over.
structure Collected (value : Int → Pos → ν) (visited : Pos → Prop) (all : Table Int ν) : Prop where
  from_ : ∀ i v, all.lookup i = some v → ∃ p, visited p ∧ blockIndex p.x p.y = i ∧ 1 ≤ i ∧ v = value i p
  every : ∀ p, visited p → 1 ≤ blockIndex p.x p.y → blockIndex p.x p.y ∈ all

theorem Collected.congr {visited also : Pos → Prop} {all : Table Int ν} (collected : Collected value visited all)
    (same : ∀ p, visited p ↔ also p) : Collected value also all := by
  refine ⟨?_,?_⟩
  · intro i v found
    obtain ⟨p,seen,rest⟩ := collected.from_ i v found
    exact ⟨p,(same p).mp seen,rest⟩
  · intro p seen
    exact collected.every p ((same p).mpr seen)

theorem Collected.visit {visited : Pos → Prop} {all : Table Int ν} (collected : Collected value visited all) (x y : Rat) :
    Collected value (fun p => visited p ∨ p = ⟨x,y⟩)
      (if 1 ≤ blockIndex x y then all.insert (blockIndex x y) (value (blockIndex x y) ⟨x,y⟩) else all) := by
  split
  next positive =>
    refine ⟨?_,?_⟩
    · intro i v found
      rcases Table.found_insert found with ⟨rfl,rfl⟩ | ⟨_,older⟩
      · exact ⟨⟨x,y⟩,.inr rfl,rfl,positive,rfl⟩
      · obtain ⟨p,seen,rest⟩ := collected.from_ i v older
        exact ⟨p,.inl seen,rest⟩
    · rintro p (seen | rfl) one
      · exact (AList.mem_insert _).mpr (.inr (collected.every p seen one))
      · exact (AList.mem_insert _).mpr (.inl rfl)
  next low =>
    refine ⟨?_,?_⟩
    · intro i v found
      obtain ⟨p,seen,rest⟩ := collected.from_ i v found
      exact ⟨p,.inl seen,rest⟩
    · rintro p (seen | rfl) one
      · exact collected.every p seen one
      · exact absurd one low

theorem Collected.column {visited : Pos → Prop} {all : Table Int ν} (collected : Collected value visited all) (x : Rat) :
    Collected value (fun p => visited p ∨ ∃ y ∈ ys, p = ⟨x,y⟩) (ys.foldl (fun all y =>
      if 1 ≤ blockIndex x y then all.insert (blockIndex x y) (value (blockIndex x y) ⟨x,y⟩) else all) all) := by
  induction ys generalizing visited all with
  | nil => exact collected.congr (by simp)
  | cons y rest ih =>
    refine (ih (collected.visit x y)).congr (fun p => ?_)
    rw [List.exists_mem_cons_iff,or_assoc]

theorem collect_collected (value : Int → Pos → ν) (xs ys : List Rat) :
    Collected value (fun p => p.x ∈ xs ∧ p.y ∈ ys) (collect value xs ys) := by
  have loop (visited : Pos → Prop) {all : Table Int ν} (collected : Collected value visited all) :
      Collected value (fun p => visited p ∨ p.x ∈ xs ∧ p.y ∈ ys) (xs.foldl (fun all x => ys.foldl (fun all y =>
        if 1 ≤ blockIndex x y then all.insert (blockIndex x y) (value (blockIndex x y) ⟨x,y⟩) else all) all) all) := by
    induction xs generalizing visited all with
    | nil => exact collected.congr (by simp)
    | cons x rest ih =>
      refine (ih _ (collected.column x)).congr (fun p => ?_)
      obtain ⟨a,b⟩ := p
      simp only [Pos.mk.injEq,List.mem_cons]
      constructor
      · rintro ((seen | ⟨y,there,rfl,rfl⟩) | ⟨later,there⟩)
        · exact .inl seen
        · exact .inr ⟨.inl rfl,there⟩
        · exact .inr ⟨.inr later,there⟩
      · rintro (seen | ⟨rfl | later,there⟩)
        · exact .inl (.inl seen)
        · exact .inl (.inr ⟨b,there,rfl,rfl⟩)
        · exact .inr ⟨later,there⟩
  refine (loop (fun _ => False) ⟨?_,?_⟩).congr (by simp)
  · intro i v found
    cases found
  · intro p none
    cases none

end tables

section blocks

-- The first cell side of the block along an axis, and how many cells the loops visit.
def blockStart (scoutView p : Rat) : Rat := (p/(scoutView*desenFogSize)).floor*scoutView
def taken (scoutView : Rat) : Int := (scoutView+1/2).floor

def firstColumn (scoutView x : Rat) : Int := (blockStart scoutView x+1/2).ceil
def firstRow (scoutView y : Rat) : Int := (blockStart scoutView y+1/2).floor

def blockLoop (scoutView p : Rat) : List Rat :=
  let denseFogAreaStart := max 0 ((p/(scoutView*desenFogSize)).floor*(scoutView*desenFogSize))
  forLoop (denseFogAreaStart+desenFogSize/2) (denseFogAreaStart+scoutView*desenFogSize) desenFogSize

-- With _returnPos getAllDenseFog also tells the places.
def getAllDenseFogPos (scoutView : Rat) (pos : Pos) : Table Int Pos :=
  collect (fun _ p => p) (blockLoop scoutView pos.x) (blockLoop scoutView pos.y)

theorem blockStart_nonneg {scoutView p : Rat} (positive : 0 < scoutView) (nonneg : 0 ≤ p) : 0 ≤ blockStart scoutView p := by
  have number : (0 : Int) ≤ (p/(scoutView*desenFogSize)).floor := by
    apply Rat.le_floor_iff.mpr
    push_cast
    apply div_nonneg nonneg
    simp only [desenFogSize]
    linarith
  exact mul_nonneg (by exact_mod_cast number) positive.le

theorem mem_blockLoop {scoutView p v : Rat} (nonneg : 0 ≤ p) :
    v ∈ blockLoop scoutView p ↔ ∃ k : Int, 0 ≤ k ∧ k < taken scoutView ∧ v = desenFogSize*(blockStart scoutView p+1/2+k) := by
  have steps (k : Nat) : (k : Rat) ≤ scoutView-1/2 ↔ (k : Int) < taken scoutView := by
    rw [taken,← Int.add_one_le_iff,Rat.le_floor_iff]
    push_cast
    constructor <;> intro bound <;> linarith
  unfold blockLoop
  dsimp only
  rw [mem_forLoop]
  generalize start : max 0 (((p/(scoutView*desenFogSize)).floor : Rat)*(scoutView*desenFogSize)) = left
  have ratio : (left+scoutView*desenFogSize-(left+desenFogSize/2))/desenFogSize = scoutView-1/2 := by
    simp only [desenFogSize]
    ring
  -- Without a step there is nothing to show; with one the view is positive.
  have same (k : Nat) (some : (k : Rat) ≤ scoutView-1/2) : left = desenFogSize*blockStart scoutView p := by
    have up : (0 : Rat) ≤ k := Nat.cast_nonneg k
    have positive : 0 < scoutView := by linarith
    have product : ((p/(scoutView*desenFogSize)).floor : Rat)*(scoutView*desenFogSize) = desenFogSize*blockStart scoutView p := by
      unfold blockStart
      ring
    rw [← start,product]
    apply max_eq_right
    exact mul_nonneg (by simp [desenFogSize]) (blockStart_nonneg positive nonneg)
  rw [ratio]
  constructor
  · rintro ⟨k,rfl,bound⟩
    refine ⟨k,by omega,(steps k).mp bound,?_⟩
    rw [same k bound]
    push_cast
    ring
  · rintro ⟨k,up,below,rfl⟩
    obtain ⟨n,rfl⟩ := Int.eq_ofNat_of_zero_le up
    have bound := (steps n).mpr below
    refine ⟨n,?_,bound⟩
    rw [same n bound]
    push_cast
    ring

-- The cells visited are a square that begins at the rounded corner of the block.
theorem visited_iff {scoutView : Rat} {pos : MapPos} {p : Pos} :
    p.x ∈ blockLoop scoutView pos.x ∧ p.y ∈ blockLoop scoutView pos.y ↔
      ∃ j k : Int, 0 ≤ j ∧ j < taken scoutView ∧ 0 ≤ k ∧ k < taken scoutView ∧
        p = ⟨desenFogSize*(blockStart scoutView pos.x+1/2+j),desenFogSize*(blockStart scoutView pos.y+1/2+k)⟩ := by
  rw [mem_blockLoop pos.x_nonneg,mem_blockLoop pos.y_nonneg]
  constructor
  · rintro ⟨⟨j,one,two,x⟩,⟨k,three,four,y⟩⟩
    refine ⟨j,k,one,two,three,four,?_⟩
    rw [← x,← y]
  · rintro ⟨j,k,one,two,three,four,rfl⟩
    exact ⟨⟨j,one,two,rfl⟩,⟨k,three,four,rfl⟩⟩

theorem blockIndex_place (scoutView x y : Rat) (j k : Int) :
    blockIndex (desenFogSize*(blockStart scoutView x+1/2+j)) (desenFogSize*(blockStart scoutView y+1/2+k)) =
      firstColumn scoutView x+j+(firstRow scoutView y+k)*400 := by
  have cells (q : Rat) : desenFogSize*q/desenFogSize = q := by
    simp only [desenFogSize]
    ring
  simp only [blockIndex,cells,firstColumn,firstRow,desenFogLineSize]
  rw [Rat.ceil_add_intCast,Rat.floor_add_intCast]

theorem first_bounds {scoutView : Rat} (pos : MapPos) (some : 0 < taken scoutView) :
    1 ≤ firstColumn scoutView pos.x ∧ 0 ≤ firstRow scoutView pos.y := by
  have positive : 0 < scoutView := by
    have step : ((1 : Int) : Rat) ≤ scoutView+1/2 := Rat.le_floor_iff.mp some
    push_cast at step
    linarith
  constructor
  · have column := blockStart_nonneg positive pos.x_nonneg
    have above : (0 : Int) < firstColumn scoutView pos.x := Rat.lt_ceil_iff.mpr (by push_cast; linarith)
    omega
  · have row := blockStart_nonneg positive pos.y_nonneg
    exact Rat.le_floor_iff.mpr (by push_cast; linarith)

end blocks

section right
variable {scoutView : Rat} {pos : MapPos}

-- The cells that lie in the block, sides counted in cells.
structure InBlock (scoutView : Rat) (pos : Pos) (cell : Cell) : Prop where
  left : blockStart scoutView pos.x ≤ cell.column-1
  right : cell.column ≤ blockStart scoutView pos.x+scoutView
  bottom : blockStart scoutView pos.y ≤ cell.row
  top : cell.row+1 ≤ blockStart scoutView pos.y+scoutView

-- Along one axis the visited cells, the first one after the given number, are in the block and on the map.
structure Inside (scoutView p : Rat) (before : Int) : Prop where
  start : blockStart scoutView p ≤ before
  stop : ((before+taken scoutView : Int) : Rat) ≤ blockStart scoutView p+scoutView
  map : before+taken scoutView ≤ desenFogLineSize

def Fits (scoutView : Rat) (pos : Pos) : Prop :=
  taken scoutView ≤ 0 ∨ Inside scoutView pos.x (firstColumn scoutView pos.x-1) ∧ Inside scoutView pos.y (firstRow scoutView pos.y)

theorem taken_bounds (scoutView : Rat) : (taken scoutView : Rat) ≤ scoutView+1/2 ∧ scoutView-1/2 < taken scoutView := by
  have low := Rat.floor_le (scoutView+1/2)
  have high := Rat.lt_floor_add_one (scoutView+1/2)
  push_cast at high
  refine ⟨low,?_⟩
  rw [taken]
  linarith

-- Whole cells inside the block are among the visited ones.
theorem Inside.visits {p : Rat} {before n : Int} (inside : Inside scoutView p before) (near : (before : Rat) < blockStart scoutView p+1)
    (left : blockStart scoutView p ≤ n) (right : ((n+1 : Int) : Rat) ≤ blockStart scoutView p+scoutView) : before ≤ n ∧ n < before+taken scoutView := by
  have start := inside.start
  have many := (taken_bounds scoutView).2
  push_cast at right
  constructor
  · have below : (before : Rat) < ((n+1 : Int) : Rat) := by
      push_cast
      linarith
    have := Int.cast_lt.mp below
    omega
  · have above : ((n : Int) : Rat) < ((before+taken scoutView : Int) : Rat) := by
      push_cast
      linarith
    exact Int.cast_lt.mp above

end right

end OriginGame.DenseFog
