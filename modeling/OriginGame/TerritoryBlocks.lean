import OriginGame.GuildTerritoryLogic
import Mathlib.Algebra.Order.Floor.Ring
import Mathlib.Tactic.FieldSimp
import Mathlib.Tactic.Positivity

namespace OriginGame.GuildTerritoryLogic

-- The tiles of the map.
def Config.grid (c : Config) : Grid where
  columns := c.xSum
  rows := c.ySum
  wide := columns_pos c
  high := Nat.div_pos (Nat.le_of_dvd c.width_pos c.width_dvd) c.size_pos

-- A side of the map's units in which positions are given.
def Config.side (c : Config) (noMulti : Bool) : ℚ := c.territorySizeMin*(if noMulti then 1 else (mapPosMultiple : ℚ))

-- A line between two tiles belongs to the one before it.
def tileAlong (side x : ℚ) : Int := max 0 (⌈x/side⌉-1)

def Config.tileAt (c : Config) (noMulti : Bool) (pos : ℚ × ℚ) : Cell := (tileAlong (c.side noMulti) pos.1,tileAlong (c.side noMulti) pos.2)

def Config.OnMap (c : Config) (noMulti : Bool) (pos : ℚ × ℚ) : Prop :=
  (0 ≤ pos.1 ∧ pos.1 ≤ c.xSum*c.side noMulti) ∧ 0 ≤ pos.2 ∧ pos.2 ≤ c.ySum*c.side noMulti

section position
variable {c : Config} {noMulti : Bool} {pos : ℚ × ℚ} {side x : ℚ}

theorem side_pos (c : Config) (noMulti : Bool) : 0 < c.side noMulti := by
  have size : (0 : ℚ) < c.territorySizeMin := Nat.cast_pos.mpr c.size_pos
  unfold Config.side mapPosMultiple
  cases noMulti <;> simpa using size

theorem tileAlong_lt (positive : 0 < side) {n : Nat} (some_ : 0 < n) (most : x ≤ n*side) : tileAlong side x < n := by
  have bound : ⌈x/side⌉ ≤ n := Int.ceil_le.mpr (by
    rw [div_le_iff₀ positive]
    exact_mod_cast most)
  unfold tileAlong
  omega

theorem tileAt_inside (onMap : c.OnMap noMulti pos) : c.grid.Inside (c.tileAt noMulti pos) := by
  obtain ⟨⟨_,right⟩,_,above⟩ := onMap
  exact ⟨⟨le_max_left _ _,tileAlong_lt (side_pos c noMulti) c.grid.wide right⟩,
    le_max_left _ _,tileAlong_lt (side_pos c noMulti) c.grid.high above⟩

-- `xNum`
theorem xNum_eq (positive : 0 < side) (low : 0 ≤ x) : (if ⌈x/side⌉ = 0 then 1 else ⌈x/side⌉) = tileAlong side x+1 := by
  have least : 0 ≤ ⌈x/side⌉ := Int.ceil_nonneg (div_nonneg low positive.le)
  unfold tileAlong
  split <;> omega

-- `yNum`, less one on a line.
theorem yNum_eq (positive : 0 < side) (low : 0 ≤ x) :
    (if ⌊x/side⌋ ≠ 0 ∧ rem x side = 0 then ⌊x/side⌋-1 else ⌊x/side⌋) = tileAlong side x := by
  have least : 0 ≤ ⌊x/side⌋ := Int.floor_nonneg.mpr (div_nonneg low positive.le)
  have onLine : rem x side = 0 ↔ x/side = ⌊x/side⌋ := by
    unfold rem
    rw [sub_eq_zero,div_eq_iff positive.ne',mul_comm]
  by_cases line : x/side = ⌊x/side⌋
  · have same : ⌈x/side⌉ = ⌊x/side⌋ := by
      rw [line,Int.ceil_intCast,Int.floor_intCast]
    have lower : tileAlong side x = if ⌊x/side⌋ ≠ 0 then ⌊x/side⌋-1 else ⌊x/side⌋ := by
      unfold tileAlong
      rw [same]
      split <;> omega
    simp only [onLine.mpr line,and_true,lower]
  · have above : (⌊x/side⌋ : ℚ) < x/side := (Int.floor_le _).lt_of_ne (Ne.symm line)
    have next : ⌈x/side⌉ = ⌊x/side⌋+1 := by
      refine Int.ceil_eq_iff.mpr ⟨?_,?_⟩
      · push_cast
        linarith
      · push_cast
        exact (Int.lt_floor_add_one _).le
    rw [if_neg (fun both => line (onLine.mp both.2)),tileAlong,next]
    omega

theorem getPosTerritoryId_tile (low : 0 ≤ pos.1) (above : 0 ≤ pos.2) :
    getPosTerritoryId c pos noMulti = c.grid.number (c.tileAt noMulti pos) := by
  have positive := side_pos c noMulti
  unfold getPosTerritoryId Config.tileAt Grid.number
  simp only [div_div]
  rw [show (c.territorySizeMin : ℚ)*(if noMulti = true then 1 else (mapPosMultiple : ℚ)) = c.side noMulti from rfl,
    xNum_eq positive low,yNum_eq positive above,← add_assoc]
  rfl

end position

section block
variable {c : Config} {centre : Cell} {n : Nat} {id : Int}

-- The tiles of the map in a square block of 2n+1 by 2n+1.
def InBlock (g : Grid) (centre : Cell) (n : Nat) (cell : Cell) : Prop :=
  g.Inside cell ∧ (centre.1-n ≤ cell.1 ∧ cell.1 ≤ centre.1+n) ∧ centre.2-n ≤ cell.2 ∧ cell.2 ≤ centre.2+n

theorem mem_steps {i : Nat} : i ∈ (List.range n).map (·+1) ↔ 1 ≤ i ∧ i ≤ n := by
  rw [List.mem_map]
  constructor
  · rintro ⟨j,mem,rfl⟩
    rw [List.mem_range] at mem
    omega
  · rintro ⟨low,most⟩
    exact ⟨i-1,List.mem_range.mpr (by omega),by omega⟩

theorem mem_besideIds (inside : c.grid.Inside centre) (i : Nat) : id ∈ besideIds c (c.grid.number centre) i ↔
    (0 ≤ centre.1-i ∧ id = c.grid.number (centre.1-i,centre.2)) ∨ (centre.1+i < c.xSum ∧ id = c.grid.number (centre.1+i,centre.2)) := by
  have left := Grid.ceilRow_right inside.1.1 inside.1.2 (-i)
  have right := Grid.ceilRow_right inside.1.1 inside.1.2 i
  have bound : centre.1 < c.xSum := inside.1.2
  have least := inside.1.1
  have row (id : Int) : rowOf c id = c.grid.ceilRow id := rfl
  have columns : (c.grid.columns : Int) = c.xSum := rfl
  rw [columns] at left right
  simp only [besideIds,List.mem_append,List.mem_ite_nil_right,List.mem_singleton,row,sub_eq_add_neg,left,right]
  rw [Grid.number_right,Grid.number_right]
  refine or_congr (and_congr_left' ?_) (and_congr_left' ?_) <;> omega

-- The tile so many rows above is taken for one of the map unless it is the last one.
theorem above_fits {cell : Cell} (inside : c.grid.Inside cell) (i : Nat) :
    c.grid.number cell+c.xSum*i < getMaxTerritoryId c ↔ cell.2+i < c.ySum ∧ (cell.1,cell.2+i) ≠ c.grid.last := by
  have up : c.grid.number cell+c.xSum*i = c.grid.number (cell.1,cell.2+i) := Grid.number_up c.grid cell i
  have most := @Grid.number_le_iff c.grid (cell.1,cell.2+i) inside.1.1 inside.1.2
  have least : 0 ≤ cell.2+i := by
    have row := inside.2.1
    omega
  rw [up,getMaxTerritoryId,lt_iff_le_and_ne]
  refine (and_congr_left' most).trans (and_congr_right (fun fits => not_congr ?_))
  rw [show (c.xSum : Int)*c.ySum = c.grid.number c.grid.last from (Grid.number_last c.grid).symm]
  exact ⟨Grid.number_inj ⟨inside.1,least,fits⟩ (Grid.last_inside _),congrArg _⟩

theorem below_fits {cell : Cell} (inside : c.grid.Inside cell) (i : Nat) :
    0 < c.grid.number cell-c.xSum*i ↔ 0 ≤ cell.2-i := by
  have down : c.grid.number cell+c.xSum*(-i) = c.grid.number (cell.1,cell.2+-i) := Grid.number_up c.grid cell (-i)
  rw [sub_eq_add_neg,← mul_neg,down]
  exact @Grid.number_pos_iff c.grid (cell.1,cell.2+-i) inside.1.1 inside.1.2

theorem mem_columnIds {cell : Cell} (inside : c.grid.Inside cell) (i : Nat) : id ∈ columnIds c (c.grid.number cell) i ↔
    ((cell.2+i < c.ySum ∧ (cell.1,cell.2+i) ≠ c.grid.last) ∧ id = c.grid.number (cell.1,cell.2+i)) ∨
      (0 ≤ cell.2-i ∧ id = c.grid.number (cell.1,cell.2-i)) := by
  have up : c.grid.number cell+c.xSum*i = c.grid.number (cell.1,cell.2+i) := Grid.number_up c.grid cell i
  have down : c.grid.number cell+c.xSum*(-i) = c.grid.number (cell.1,cell.2+-i) := Grid.number_up c.grid cell (-i)
  simp only [columnIds,List.mem_append,List.mem_ite_nil_right,List.mem_singleton,above_fits inside,below_fits inside]
  rw [up,show c.grid.number cell-c.xSum*i = c.grid.number (cell.1,cell.2-i) by rw [sub_eq_add_neg,← mul_neg,down,sub_eq_add_neg]]

theorem mem_row (inside : c.grid.Inside centre) (x : Int) :
    x ∈ c.grid.number centre::((List.range n).map (·+1)).flatMap (besideIds c (c.grid.number centre)) ↔
      ∃ column : Int, (0 ≤ column ∧ column < c.xSum) ∧ (centre.1-n ≤ column ∧ column ≤ centre.1+n) ∧ x = c.grid.number (column,centre.2) := by
  have bound : centre.1 < c.xSum := inside.1.2
  have least := inside.1.1
  simp only [List.mem_cons,List.mem_flatMap,mem_steps,mem_besideIds inside]
  constructor
  · rintro (rfl | ⟨i,⟨low,most⟩,⟨fits,rfl⟩ | ⟨fits,rfl⟩⟩)
    · exact ⟨centre.1,inside.1,by omega,rfl⟩
    · exact ⟨centre.1-i,by omega,by omega,rfl⟩
    · exact ⟨centre.1+i,by omega,by omega,rfl⟩
  · rintro ⟨column,fits,near,rfl⟩
    rcases lt_trichotomy column centre.1 with before | rfl | after
    · refine .inr ⟨(centre.1-column).toNat,by omega,.inl ⟨by omega,?_⟩⟩
      rw [show centre.1-((centre.1-column).toNat : Int) = column by omega]
    · exact .inl rfl
    · refine .inr ⟨(column-centre.1).toNat,by omega,.inr ⟨by omega,?_⟩⟩
      rw [show centre.1+((column-centre.1).toNat : Int) = column by omega]

-- What the columns of the block are given up to is the last tile of the map.
theorem mem_block (inside : c.grid.Inside centre) : id ∈ ((c.grid.number centre::((List.range n).map (·+1)).flatMap
    (besideIds c (c.grid.number centre))).flatMap (fun id => id::((List.range n).map (·+1)).flatMap (columnIds c id))) ↔
    ∃ cell, InBlock c.grid centre n cell ∧ (cell = c.grid.last → cell.2 ≤ centre.2) ∧ id = c.grid.number cell := by
  have row : centre.2 < c.ySum := inside.2.2
  have low := inside.2.1
  have height : (c.grid.rows : Int) = c.ySum := rfl
  simp only [List.mem_flatMap,mem_row inside]
  constructor
  · rintro ⟨x,⟨column,fits,near,rfl⟩,mem⟩
    have there : c.grid.Inside (column,centre.2) := ⟨fits,inside.2⟩
    rcases List.mem_cons.mp mem with rfl | mem
    · exact ⟨(column,centre.2),⟨there,near,by omega⟩,fun _ => le_refl _,rfl⟩
    · obtain ⟨i,steps,mem⟩ := List.mem_flatMap.mp mem
      rw [mem_steps] at steps
      rcases (mem_columnIds there i).mp mem with ⟨⟨below,other⟩,rfl⟩ | ⟨above,rfl⟩
      · exact ⟨(column,centre.2+i),⟨⟨fits,by omega,below⟩,near,by omega⟩,fun same => absurd same other,rfl⟩
      · exact ⟨(column,centre.2-i),⟨⟨fits,above,by omega⟩,near,by omega⟩,fun _ => by omega,rfl⟩
  · rintro ⟨⟨column,line⟩,⟨⟨fits,lowest,highest⟩,near,around⟩,notLast,rfl⟩
    have there : c.grid.Inside (column,centre.2) := ⟨fits,inside.2⟩
    refine ⟨c.grid.number (column,centre.2),⟨column,fits,near,rfl⟩,?_⟩
    rw [List.mem_cons,List.mem_flatMap]
    rcases lt_trichotomy line centre.2 with before | rfl | after
    · refine .inr ⟨(centre.2-line).toNat,mem_steps.mpr (by omega),(mem_columnIds there _).mpr (.inr ⟨by omega,?_⟩)⟩
      rw [show centre.2-((centre.2-line).toNat : Int) = line by omega]
    · exact .inl rfl
    · have place : centre.2+((line-centre.2).toNat : Int) = line := by omega
      refine .inr ⟨(line-centre.2).toNat,mem_steps.mpr (by omega),(mem_columnIds there _).mpr (.inl ⟨⟨by omega,?_⟩,?_⟩)⟩
      · rw [place]
        exact fun same => absurd (notLast same) (by omega)
      · rw [place]

-- The element tells which list of the union it is from.
theorem nodup_keyed {ι κ α : Type} {list : List ι} {f : ι → List α} (key : α → κ) (code : ι → κ) (inj : ∀ i ∈ list, ∀ j ∈ list, code i = code j → i = j)
    (distinct : list.Nodup) (each : ∀ i ∈ list, (f i).Nodup) (keyed : ∀ i ∈ list, ∀ e ∈ f i, key e = code i) : (list.flatMap f).Nodup := by
  refine List.nodup_flatMap.mpr ⟨each,?_⟩
  refine distinct.imp_of_mem (fun {i j} there here apart e mem mem' => apart ?_)
  exact inj i there j here ((keyed i there e mem).symm.trans (keyed j here e mem'))

-- Steps of one length to both sides meet no place twice.
theorem spread_nodup {t s : Int} (positive : 0 < s) {f : Nat → List Int} (near : ∀ i e, e ∈ f i → e = t-s*i ∨ e = t+s*i)
    (each : ∀ i, 1 ≤ i → (f i).Nodup) : (t::((List.range n).map (·+1)).flatMap f).Nodup := by
  have apart (i : Nat) (e : Int) (mem : e ∈ f i) : (e-t).natAbs = (s*i).natAbs := by
    rcases near i e mem with rfl | rfl <;> omega
  rw [List.nodup_cons]
  constructor
  · intro mem
    obtain ⟨i,steps,mem⟩ := List.mem_flatMap.mp mem
    have none_ := apart i t mem
    have some_ : 0 < s*i := mul_pos positive (by exact_mod_cast (mem_steps.mp steps).1)
    omega
  · refine nodup_keyed (fun e => (e-t).natAbs) (fun i : Nat => (s*i).natAbs) ?_ ?_ ?_ (fun i _ e mem => apart i e mem)
    · intro i _ j _ same
      have nonneg (k : Nat) : 0 ≤ s*k := mul_nonneg positive.le (Int.natCast_nonneg k)
      have equal : s*i = s*j := by
        have first := nonneg i
        have second := nonneg j
        omega
      exact_mod_cast mul_left_cancel₀ positive.ne' equal
    · exact (List.nodup_range).map (fun i j same => Nat.succ_injective same)
    · exact fun i steps => each i (mem_steps.mp steps).1

theorem block_nodup (inside : c.grid.Inside centre) : ((c.grid.number centre::((List.range n).map (·+1)).flatMap
    (besideIds c (c.grid.number centre))).flatMap (fun id => id::((List.range n).map (·+1)).flatMap (columnIds c id))).Nodup := by
  have wide : (0 : Int) < c.xSum := Grid.columns_pos c.grid
  have beside (t : Int) (i : Nat) (e : Int) (mem : e ∈ besideIds c t i) : e = t-1*i ∨ e = t+1*i := by
    simp only [besideIds,List.mem_append,List.mem_ite_nil_right,List.mem_singleton] at mem
    omega
  have column (t : Int) (i : Nat) (e : Int) (mem : e ∈ columnIds c t i) : e = t-c.xSum*i ∨ e = t+c.xSum*i := by
    simp only [columnIds,List.mem_append,List.mem_ite_nil_right,List.mem_singleton] at mem
    exact mem.symm.imp And.right And.right
  refine nodup_keyed (fun e => (c.grid.cellOf e).1) (fun id => (c.grid.cellOf id).1) ?_ ?_ ?_ ?_
  · intro x there y here same
    obtain ⟨left,fits,_,rfl⟩ := (mem_row inside x).mp there
    obtain ⟨right,fits',_,rfl⟩ := (mem_row inside y).mp here
    rw [Grid.cellOf_number fits.1 fits.2,Grid.cellOf_number fits'.1 fits'.2] at same
    rw [show left = right from same]
  · refine spread_nodup Int.one_pos (beside _) (fun i low => ?_)
    unfold besideIds
    split <;> split <;> simp
    omega
  · intro x _
    refine spread_nodup wide (column _) (fun i low => ?_)
    have some_ : 0 < c.xSum*(i : Int) := mul_pos wide (by exact_mod_cast low)
    unfold columnIds
    split <;> split <;> simp
    omega
  · intro x _ e mem
    have shifted (k : Int) : (c.grid.cellOf (x+c.xSum*k)).1 = (c.grid.cellOf x).1 := by
      change (x+c.xSum*k-1) % (c.xSum : Int) = (x-1) % c.xSum
      rw [show x+c.xSum*k-1 = x-1+c.xSum*k by ring,Int.add_mul_emod_self_left]
    rcases List.mem_cons.mp mem with rfl | mem
    · rfl
    · obtain ⟨i,_,mem⟩ := List.mem_flatMap.mp mem
      rcases column x i e mem with rfl | rfl
      · rw [sub_eq_add_neg,← mul_neg]
        exact shifted _
      · exact shifted _

end block

section exact_
variable (c : Config)

-- The ids of the tiles of the block that lie on the map.
def BlockExact (pos : ℚ × ℚ) (n : Nat) : Prop :=
  ∃ ids, getPosTerritoryIds c pos ((2*n+1)*c.territorySizeMin) = some ids ∧ ids.Nodup ∧
    ∀ id, id ∈ ids ↔ ∃ cell, InBlock c.grid (c.tileAt false pos) n cell ∧ id = c.grid.number cell

def AroundExact (territoryId : Int) : Prop :=
  ∀ id, id ∈ getAroundTerritoryIds c territoryId ↔ ∃ cell, c.grid.Inside cell ∧ Grid.Beside (c.grid.cellOf territoryId) cell ∧ id = c.grid.number cell

variable {c} {pos : ℚ × ℚ} {n : Nat} {territoryId : Int}

theorem territoryNum_odd (c : Config) (n : Nat) : territoryNum c ((2*n+1)*c.territorySizeMin) = some n := by
  unfold territoryNum
  rw [if_pos (dvd_mul_left _ _),Nat.mul_div_cancel _ c.size_pos]
  congr 1
  omega

-- The block misses the last tile of the map if that is in it, above the centre.
theorem block_exact (onMap : c.OnMap false pos) :
    BlockExact c pos n ↔ ¬ (InBlock c.grid (c.tileAt false pos) n c.grid.last ∧ (c.tileAt false pos).2 < c.grid.last.2) := by
  have inside := tileAt_inside onMap
  have found : getPosTerritoryIds c pos ((2*n+1)*c.territorySizeMin) =
      some ((c.grid.number (c.tileAt false pos)::((List.range n).map (·+1)).flatMap (besideIds c (c.grid.number (c.tileAt false pos)))).flatMap
        (fun id => id::((List.range n).map (·+1)).flatMap (columnIds c id))) := by
    unfold getPosTerritoryIds
    rw [territoryNum_odd,getPosTerritoryId_tile onMap.1.1 onMap.2.1]
    rfl
  constructor
  · rintro ⟨ids,returned,_,exact_⟩ ⟨there,above⟩
    rw [found] at returned
    cases returned
    obtain ⟨cell,block,low,same⟩ := (mem_block inside).mp ((exact_ _).mpr ⟨_,there,rfl⟩)
    have last := Grid.number_inj (Grid.last_inside _) block.1 same
    rw [← last] at low
    exact absurd (low rfl) (not_le.mpr above)
  · intro reached
    refine ⟨_,found,block_nodup inside,fun id => (mem_block inside).trans ⟨?_,?_⟩⟩
    · rintro ⟨cell,block,_,same⟩
      exact ⟨cell,block,same⟩
    · rintro ⟨cell,block,same⟩
      refine ⟨cell,block,?_,same⟩
      rintro rfl
      exact not_lt.mp (fun above => reached ⟨block,above⟩)

theorem mem_around {cell : Cell} (inside : c.grid.Inside cell) (id : Int) : id ∈ getAroundTerritoryIds c (c.grid.number cell) ↔
    ∃ other, (c.grid.Inside other ∧ Grid.Beside cell other) ∧ (other = c.grid.last → other.2 ≤ cell.2) ∧ id = c.grid.number other := by
  have single (p : Prop) [Decidable p] (a : Int) : id ∈ (if p then ({a} : Finset Int) else ∅) ↔ p ∧ id = a := by
    split <;> simp [*]
  have row (id : Int) : rowOf c id = c.grid.ceilRow id := rfl
  have up := above_fits inside 1
  have down := below_fits inside 1
  have left := Grid.ceilRow_right inside.1.1 inside.1.2 (-1)
  have right := Grid.ceilRow_right inside.1.1 inside.1.2 1
  have width : (c.grid.columns : Int) = c.xSum := rfl
  have height : (c.grid.rows : Int) = c.ySum := rfl
  have shifted (i : Int) : c.grid.number cell+c.xSum*i = c.grid.number (cell.1,cell.2+i) := Grid.number_up c.grid cell i
  have moved (i : Int) : c.grid.number cell+i = c.grid.number (cell.1+i,cell.2) := Grid.number_right c.grid cell i
  obtain ⟨⟨low,fits⟩,least,most⟩ := inside
  rw [Nat.cast_one,mul_one] at up down
  rw [width] at left right fits
  rw [height] at most
  have above : c.grid.number cell+c.xSum = c.grid.number (cell.1,cell.2+1) := by rw [← shifted,mul_one]
  have below : c.grid.number cell-c.xSum = c.grid.number (cell.1,cell.2-1) := by rw [sub_eq_add_neg,sub_eq_add_neg,← shifted,mul_neg_one]
  simp only [getAroundTerritoryIds,Finset.mem_union,single,row,gt_iff_lt,sub_eq_add_neg (c.grid.number cell) 1,up,down,left,right]
  rw [above,below,moved,moved]
  unfold Grid.Beside Grid.Inside
  rw [width,height]
  constructor
  · rintro (((⟨⟨fit,other⟩,rfl⟩ | ⟨fit,rfl⟩) | ⟨fit,rfl⟩) | ⟨fit,rfl⟩)
    · exact ⟨(cell.1,cell.2+1),⟨⟨⟨low,fits⟩,by omega⟩,.inr ⟨rfl,.inl rfl⟩⟩,fun same => absurd same other,rfl⟩
    · exact ⟨(cell.1,cell.2-1),⟨⟨⟨low,fits⟩,by omega⟩,.inr ⟨rfl,.inr rfl⟩⟩,fun _ => by omega,rfl⟩
    · exact ⟨(cell.1+-1,cell.2),⟨⟨by omega,least,most⟩,.inl ⟨rfl,.inr rfl⟩⟩,fun _ => le_refl _,rfl⟩
    · exact ⟨(cell.1+1,cell.2),⟨⟨by omega,least,most⟩,.inl ⟨rfl,.inl rfl⟩⟩,fun _ => le_refl _,rfl⟩
  · rintro ⟨⟨x,y⟩,⟨⟨⟨first,second⟩,third,fourth⟩,beside⟩,notLast,rfl⟩
    dsimp only at first second third fourth beside notLast
    rcases beside with ⟨rfl,rfl | rfl⟩ | ⟨rfl,rfl | rfl⟩
    · exact .inr ⟨by omega,rfl⟩
    · exact .inl (.inr ⟨by omega,rfl⟩)
    · refine .inl (.inl (.inl ⟨⟨fourth,fun same => ?_⟩,rfl⟩))
      have under := notLast same
      omega
    · exact .inl (.inl (.inr ⟨by omega,rfl⟩))

theorem around_exact (low : 1 ≤ territoryId) (most : territoryId ≤ getMaxTerritoryId c) :
    AroundExact c territoryId ↔ territoryId+c.xSum ≠ getMaxTerritoryId c := by
  have inside : c.grid.Inside (c.grid.cellOf territoryId) := Grid.cellOf_inside low most
  have its := Grid.number_cellOf c.grid territoryId
  have above : territoryId+c.xSum = getMaxTerritoryId c ↔ ((c.grid.cellOf territoryId).1,(c.grid.cellOf territoryId).2+1) = c.grid.last := by
    have up : c.grid.number (c.grid.cellOf territoryId)+c.xSum*1 = c.grid.number ((c.grid.cellOf territoryId).1,(c.grid.cellOf territoryId).2+1) :=
      Grid.number_up c.grid _ 1
    rw [its,mul_one] at up
    rw [up,show getMaxTerritoryId c = c.grid.number c.grid.last from (Grid.number_last c.grid).symm]
    constructor
    · intro same
      have last := congrArg c.grid.cellOf same
      rw [Grid.cellOf_number (Grid.last_inside _).1.1 (Grid.last_inside _).1.2] at last
      rw [← last]
      exact (@Grid.cellOf_number c.grid ((c.grid.cellOf territoryId).1,(c.grid.cellOf territoryId).2+1) inside.1.1 inside.1.2).symm
    · exact congrArg _
  rw [Ne,above]
  have member := mem_around inside
  rw [its] at member
  constructor
  · intro exact_ last
    have mem := (exact_ (c.grid.number c.grid.last)).mpr ⟨_,Grid.last_inside _,.inr (by rw [← last]; exact ⟨rfl,.inl rfl⟩),rfl⟩
    obtain ⟨other,⟨there,_⟩,low_,same⟩ := (member _).mp mem
    have reached := Grid.number_inj (Grid.last_inside _) there same
    have under := low_ reached.symm
    rw [← reached,← last] at under
    dsimp only at under
    omega
  · intro reached id
    rw [member]
    constructor
    · rintro ⟨other,both,_,same⟩
      exact ⟨other,both.1,both.2,same⟩
    · rintro ⟨other,there,beside,same⟩
      refine ⟨other,⟨there,beside⟩,?_,same⟩
      rintro rfl
      rcases beside with ⟨row,_⟩ | ⟨column,up | down⟩
      · exact row.le
      · exact absurd (by rw [← column,← up]) reached
      · omega

theorem blocks_exact (onMap : c.OnMap false pos) (n : Nat) (low : 1 ≤ territoryId) (most : territoryId ≤ getMaxTerritoryId c) :
    BlockExact c pos n ∧ AroundExact c territoryId ↔
      ¬ (InBlock c.grid (c.tileAt false pos) n c.grid.last ∧ (c.tileAt false pos).2 < c.grid.last.2) ∧ territoryId+c.xSum ≠ getMaxTerritoryId c :=
  and_congr (block_exact onMap) (around_exact low most)

end exact_

section corner
-- Three by three tiles of 18.
def small : Config := ⟨54,54,18,by decide,by decide,by decide,⟨3,rfl⟩,⟨3,rfl⟩⟩

theorem small_exact : BlockExact small (100,100) 1 ∧ AroundExact small 1 := by
  refine (blocks_exact ⟨⟨by decide,?_⟩,by decide,?_⟩ 1 (by decide) (by decide)).mpr ⟨?_,by decide⟩
  · decide +kernel
  · decide +kernel
  · rintro ⟨⟨_,⟨_,near⟩,_⟩,_⟩
    exact absurd near (by decide +kernel)

-- The block around the middle has eight of the nine tiles, and there is none above the sixth.
theorem corner_missing : ¬ BlockExact small (2700,2700) 1 ∧ ¬ AroundExact small 6 := by
  constructor
  · rintro ⟨ids,found,_,exact_⟩
    have listed : getPosTerritoryIds small (2700,2700) 54 = some [5,8,2,4,7,1,6,3] := by decide +kernel
    rw [show (2*1+1)*small.territorySizeMin = 54 from rfl,listed] at found
    cases found
    have centre : small.tileAt false (2700,2700) = (1,1) := by decide +kernel
    refine absurd ((exact_ 9).mpr ⟨(2,2),⟨?_,?_⟩,rfl⟩) (by decide)
    · exact ⟨⟨by decide,by decide⟩,by decide,by decide⟩
    · rw [centre]
      exact ⟨⟨by decide,by decide⟩,by decide,by decide⟩
  · intro exact_
    refine absurd ((exact_ 9).mpr ⟨(2,2),⟨⟨by decide,by decide⟩,by decide,by decide⟩,?_,rfl⟩) (by decide)
    rw [show small.grid.cellOf 6 = (2,1) from rfl]
    exact .inr ⟨rfl,.inl rfl⟩

end corner
end OriginGame.GuildTerritoryLogic
