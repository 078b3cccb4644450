import OriginGame.BorderLoops
import OriginGame.TerritoryLines

namespace OriginGame.GuildTerritoryLogic
open Border Polyline

section outlines

-- Which way it is from one point of a line to the next; none is not along an axis.
def heading (first second : Pos) : Option Direction :=
  if first.1 = second.1 then
    if first.2 < second.2 then some .up else if second.2 < first.2 then some .down else none
  else if first.2 = second.2 then some (if first.1 < second.1 then .right else .left)
  else none

variable (c : Config)

-- The sides of tiles that are passed from one point to the other, with the direction they are passed in.
def units (first second : Pos) : List (Pos × Direction) :=
  match heading first second with
  | none => []
  | some d => (List.range (((second.1-first.1).natAbs+(second.2-first.2).natAbs) / c.territorySizeMin)).map
      (fun k : Nat => (getTerritoryNextPos first (k*c.territorySizeMin) d,d))

-- The same side passed upwards or to the right.
def upward (unit : Pos × Direction) : Pos × Direction :=
  match unit.2 with
  | .left | .down => (getTerritoryNextPos unit.1 c.territorySizeMin unit.2,unit.2.opposite)
  | .up | .right => unit

-- The line is closed.
def sides (line : List Pos) : List (Pos × Pos) := pairs (line++line.take 1)

def covered (line : List Pos) : List (Pos × Direction) := (sides line).flatMap (fun side => (units c side.1 side.2).map (upward c))

structure Outlined (territoryIds : Territories) (lines : List Line) : Prop where
  axes : ∀ line ∈ lines, ∀ side ∈ sides line.linePos, heading side.1 side.2 ≠ none
  once : (lines.flatMap (fun line => covered c line.linePos)).Nodup
  separating : ∀ unit, unit ∈ lines.flatMap (fun line => covered c line.linePos) ↔
    ∃ p d, (d = .up ∨ d = .right) ∧ border (territory c territoryIds) (p,d) = true ∧ unit = (cornerPos c p,d)
  inside : ∀ line ∈ lines, ∃ first second rest, line.linePos = first::second::rest ∧ ∀ unit ∈ units c first second, ∃ p, unit.1 = cornerPos c p ∧
    line.direction = some (if territory c territoryIds (leftCell p unit.2) then .LEFT else .RIGHT)

end outlines

section corners
variable {c : Config} {s p : Int × Int} {d e : Direction} {m n : Nat} {legs : Legs}

-- The position and the direction of a unit of the grid.
def unitOf (c : Config) (a : Arc) : Pos × Direction := (cornerPos c a.1,a.2)

theorem unitOf_inj (c : Config) : Function.Injective (unitOf c) := by
  intro a b same
  obtain ⟨points,directions⟩ := Prod.ext_iff.mp same
  exact Prod.ext ((cornerPos_inj c).mp points) directions

theorem nextPos_walk (c : Config) (p : Int × Int) (d : Direction) (k : Nat) :
    getTerritoryNextPos (cornerPos c p) (k*c.territorySizeMin) d = cornerPos c (walk d k p) := by
  cases d <;> simp only [getTerritoryNextPos,cornerPos,walk,add_mul,sub_mul]

theorem upward_unit (a : Arc) : upward c (unitOf c a) = unitOf c a.edge := by
  obtain ⟨p,d⟩ := a
  have next := nextPos_corner c p d
  cases d
  · exact Prod.ext next rfl
  · rfl
  · rfl
  · exact Prod.ext next rfl

theorem heading_walk (long : 0 < m) (d : Direction) (p : Int × Int) : heading (cornerPos c p) (cornerPos c (walk d m p)) = some d := by
  have positive := size_int c
  have more : 0 < (m : Int)*c.territorySizeMin := mul_pos (by exact_mod_cast long) positive
  unfold heading
  cases d <;> simp only [cornerPos,walk,add_mul,sub_mul] <;> grind

theorem units_walk (long : 0 < m) (d : Direction) (p : Int × Int) :
    units c (cornerPos c p) (cornerPos c (walk d m p)) = (straight p d m).map (unitOf c) := by
  have size := c.size_pos
  have far : ((cornerPos c (walk d m p)).1-(cornerPos c p).1).natAbs+((cornerPos c (walk d m p)).2-(cornerPos c p).2).natAbs =
      m*c.territorySizeMin := by
    have positive : 0 ≤ (m : Int)*c.territorySizeMin := mul_nonneg (Int.natCast_nonneg m) (Int.natCast_nonneg _)
    cases d <;> simp only [cornerPos,walk,add_mul,sub_mul] <;> omega
  unfold units
  rw [heading_walk long]
  dsimp only
  rw [far,Nat.mul_div_cancel _ size]
  unfold straight
  rw [List.map_map]
  refine List.map_congr_left (fun k _ => ?_)
  rw [nextPos_walk]
  rfl

theorem trimmed_sides {line : List Pos} {first second last : Pos} {middle : List (Pos × Pos)}
    (all : sides line = (first,second)::middle++[(last,first)]) :
    sides (trimmed line) = if inLine first second last then middle++[(last,second)] else sides line := by
  match line with
  | [] => cases all
  | [x] =>
    have lengths := congrArg List.length all
    simp [sides,pairs] at lengths
  | x::y::rest =>
    have pairs_ : (x,y)::pairs (y::rest++[x]) = (first,second)::(middle++[(last,first)]) := all
    obtain ⟨ends,others⟩ := List.cons.inj pairs_
    cases ends
    unfold trimmed
    rcases List.eq_nil_or_concat rest with rfl | ⟨init,z,rfl⟩
    · obtain ⟨nothing,same⟩ := List.append_inj' (show []++[(second,first)] = middle++[(last,first)] from others) rfl
      cases same
      subst nothing
      dsimp only
      rw [List.getLast?_nil,Option.getD_none]
      by_cases straightOn : inLine first second second = true
      · rw [if_pos straightOn,if_pos straightOn]
        rfl
      · rw [if_neg straightOn,if_neg straightOn]
    · rw [List.concat_eq_append] at others ⊢
      have parted : pairs (second::init++[z])++[(z,first)] = middle++[(last,first)] := by
        rw [← others,← pairs_snoc]
        exact congrArg pairs (by simp)
      obtain ⟨before,same⟩ := List.append_inj' parted rfl
      cases same
      dsimp only
      rw [List.getLast?_append,List.getLast?_singleton,Option.some_or,Option.getD_some]
      by_cases straightOn : inLine first second last = true
      · rw [if_pos straightOn,if_pos straightOn,← before,← pairs_snoc]
        exact congrArg pairs (List.append_assoc (second::init) [last] [second])
      · rw [if_neg straightOn,if_neg straightOn]

theorem inLine_back (long : 0 < m) (longToo : 0 < n) (onward : d ≠ e.opposite) (p : Int × Int) :
    inLine (cornerPos c (walk e n p)) (cornerPos c (walk d m (walk e n p))) (cornerPos c p) = decide (d = e) := by
  rw [Bool.eq_iff_iff,inLine_corner,decide_eq_true_iff]
  revert onward
  cases d <;> cases e <;> simp [walk,Direction.opposite] <;> omega

def cornerEnds (c : Config) (segment : (Int × Int) × Direction × Nat) : Pos × Pos :=
  (cornerPos c segment.1,cornerPos c (walk segment.2.1 segment.2.2 segment.1))

def segmentArcs (segment : (Int × Int) × Direction × Nat) : List Arc := straight segment.1 segment.2.1 segment.2.2

theorem sides_points (c : Config) (leg : Direction × Nat) (legs : Legs) (closed : endOf s (leg::legs) = s) :
    sides ((points s (leg::legs)).tail.map (cornerPos c)).reverse = (segments s (leg::legs)).map (cornerEnds c) := by
  obtain ⟨rest,first⟩ := points_reverse s legs
  have line : ((points s (leg::legs)).tail.map (cornerPos c)).reverse = cornerPos c s::rest.map (cornerPos c) := by
    rw [points,List.tail_cons,← List.map_reverse,first,List.map_cons]
  have all : cornerPos c s::rest.map (cornerPos c)++[cornerPos c s] = (points s (leg::legs)).reverse.map (cornerPos c) := by
    rw [points,List.reverse_cons,first,closed,List.map_append]
    rfl
  unfold sides
  rw [line,List.take_succ_cons,List.take_zero,all,pairs_map,pairs_points,List.map_map]
  rfl

-- The sides of the line, whether the start is one of its points or not.
theorem closed_segments {mid : Legs} (bent : Bent ((e,n)::mid++[(d,m)])) (closed : endOf s ((e,n)::mid++[(d,m)]) = s) (onward : d ≠ e.opposite) :
    ∃ found : List ((Int × Int) × Direction × Nat), (∀ segment ∈ found, 0 < segment.2.2) ∧
      sides (trimmed ((points s ((e,n)::mid++[(d,m)])).tail.map (cornerPos c)).reverse) = found.map (cornerEnds c) ∧
      (found.flatMap segmentArcs).Perm (arcs s ((e,n)::mid++[(d,m)])) := by
  have all : ∀ segment ∈ segments s ((e,n)::mid++[(d,m)]), 0 < segment.2.2 := fun _ mem => segments_long bent mem
  obtain ⟨middle,first⟩ := segments_first s mid (d,m)
  have parts : segments s ((e,n)::mid++[(d,m)]) = (s,d,m)::middle++[(endOf s (mid++[(d,m)]),e,n)] := by
    rw [List.cons_append,segments,first]
  have back : walk e n (endOf s (mid++[(d,m)])) = s := closed
  have sided := sides_points c (e,n) (mid++[(d,m)]) closed
  rw [← List.cons_append,parts] at sided
  rw [parts] at all
  have long : 0 < m := all (s,d,m) (by simp)
  have longToo : 0 < n := all (endOf s (mid++[(d,m)]),e,n) (by simp)
  have shape : sides ((points s ((e,n)::mid++[(d,m)])).tail.map (cornerPos c)).reverse = (cornerPos c s,cornerPos c (walk d m s))::
      middle.map (cornerEnds c)++[(cornerPos c (endOf s (mid++[(d,m)])),cornerPos c s)] := by
    rw [sided,List.cons_append,List.map_cons,List.map_append]
    simp only [cornerEnds,List.map_cons,List.map_nil,back,List.cons_append]
  have trims := trimmed_sides shape
  have straightOn := inLine_back (c:=c) long longToo onward (endOf s (mid++[(d,m)]))
  rw [back] at straightOn
  rw [straightOn] at trims
  rw [arcs_segments,parts]
  by_cases same : d = e
  · subst same
    rw [if_pos (decide_eq_true rfl)] at trims
    refine ⟨middle++[(endOf s (mid++[(d,m)]),d,n+m)],?_,?_,?_⟩
    · intro segment mem
      rcases List.mem_append.mp mem with earlier | last
      · exact all segment (by simp [earlier])
      · rw [List.mem_singleton.mp last]
        exact Nat.add_pos_left longToo m
    · rw [trims,List.map_append]
      simp only [cornerEnds,List.map_cons,List.map_nil,walk_add,back]
    · simp only [segmentArcs,List.cons_append,List.flatMap_append,List.flatMap_cons,List.flatMap_nil,List.append_nil,straight_add,back]
      rw [← List.append_assoc]
      exact List.perm_append_comm
  · rw [if_neg (by rwa [decide_eq_true_iff]),sided] at trims
    exact ⟨_,all,trims,.refl _⟩

end corners

section directions
variable {c : Config} {territoryIds : Territories} {p : Int × Int} {d : Direction} {m : Nat} {side : Bool}

theorem posId_region (left : 0 < p.1) (right : p.1 ≤ c.xSum) (low : 0 < p.2) (high : p.2 ≤ c.ySum) :
    posId c (cornerPos c p) ∈ territoryIds ↔ territory c territoryIds (p.1-1,p.2-1) = true := by
  have width : (c.grid.columns : Int) = c.xSum := rfl
  have height : (c.grid.rows : Int) = c.ySum := rfl
  have inside : c.grid.Inside (p.1-1,p.2-1) := by
    refine ⟨⟨?_,?_⟩,?_,?_⟩ <;> dsimp only <;> omega
  rw [posId_corner left.le low.le,max_eq_right (by omega),max_eq_right (by omega),territory_iff]
  exact (and_iff_right inside).symm

theorem straight_first (p : Int × Int) (d : Direction) (m : Nat) : (p,d) ∈ straight p d (m+1) :=
  by rw [straight_cons]; exact List.mem_cons_self

theorem straight_last (p : Int × Int) (d : Direction) (m : Nat) : (walk d m p,d) ∈ straight p d (m+1) :=
  List.mem_map.mpr ⟨m,List.mem_range.mpr (Nat.lt_succ_self m),rfl⟩

section axes
variable {q : Int × Int}

theorem corner_column (c : Config) (p q : Int × Int) : (cornerPos c p).1 = (cornerPos c q).1 ↔ p.1 = q.1 := mul_left_inj' (size_int c).ne'

theorem corner_row (c : Config) (p q : Int × Int) : (cornerPos c p).2 = (cornerPos c q).2 ↔ p.2 = q.2 := mul_left_inj' (size_int c).ne'

theorem corner_left (c : Config) (p : Int × Int) : (cornerPos c p).1 = 0 ↔ p.1 = 0 := mul_eq_zero_iff_right (size_int c).ne'

theorem corner_bottom (c : Config) (p : Int × Int) : (cornerPos c p).2 = 0 ↔ p.2 = 0 := mul_eq_zero_iff_right (size_int c).ne'

theorem corner_right (c : Config) (p : Int × Int) : (cornerPos c p).1 = c.kingdomMapLength ↔ p.1 = c.xSum := by
  rw [kingdomMapLength_eq]
  exact mul_left_inj' (size_int c).ne'

theorem corner_top (c : Config) (p : Int × Int) : (cornerPos c p).2 = c.kingdomMapWidth ↔ p.2 = c.ySum := by
  rw [kingdomMapWidth_eq]
  exact mul_left_inj' (size_int c).ne'

theorem corner_before (c : Config) (p q : Int × Int) : (cornerPos c p).1 < (cornerPos c q).1 ↔ p.1 < q.1 := mul_lt_mul_iff_left₀ (size_int c)

theorem corner_below (c : Config) (p q : Int × Int) : (cornerPos c p).2 < (cornerPos c q).2 ↔ p.2 < q.2 := mul_lt_mul_iff_left₀ (size_int c)

end axes

-- The side that is named is the one the guild is on all along.
theorem getLineDirection_walk (inner : Inner c territoryIds) (on : ∀ a ∈ straight p d (m+1), border (territory c territoryIds) a = true)
    (same : ∀ a ∈ straight p d (m+1), territory c territoryIds (leftCell a.1 a.2) = side) :
    getLineDirection c (cornerPos c p) (cornerPos c (walk d (m+1) p)) territoryIds = some (if side then .LEFT else .RIGHT) := by
  have first := on _ (straight_first p d m)
  have last := on _ (straight_last p d m)
  have firstSide := same _ (straight_first p d m)
  have lastSide := same _ (straight_last p d m)
  obtain ⟨⟨left,right⟩,low,high⟩ := numAt_bounds inner (numAt_border first).1
  obtain ⟨⟨left',right'⟩,low',high'⟩ := numAt_bounds inner (head_numAt last)
  have tall : (c.grid.rows : Int) = c.ySum := rfl
  have ended := @posId_region c territoryIds (walk d (m+1) p)
  have begun := @posId_region c territoryIds p
  have outside (x y : Int) (off : x < 0 ∨ y < 0 ∨ c.ySum ≤ y) : territory c territoryIds (x,y) = false := by
    refine territory_outside (fun inside => ?_)
    obtain ⟨⟨l,_⟩,b,t⟩ := inside
    dsimp only at l b t
    omega
  rw [border_straight] at first last
  clear on same
  obtain ⟨x,y⟩ := p
  unfold getLineDirection
  simp only [corner_column,corner_row,corner_left,corner_bottom,corner_right,corner_top,corner_before,corner_below]
  simp only [Arc.head] at *
  cases d with
  | up =>
    simp only [walk,leftCell,Direction.clockwise,Direction.step,Nat.cast_add,Nat.cast_one] at *
    rw [← lastSide]
    by_cases edge : x = 0
    · simp only [edge,if_true,if_pos (show y < y+(m+1) by omega),outside (0-1) (y+m) (.inl (by omega)),Bool.false_eq_true,if_false]
    · have its := ended (by omega) (by omega) (by omega) (by omega)
      rw [show y+((m : Int)+1)-1 = y+m by omega] at its
      simp only [edge,if_true,if_false,if_pos (show y < y+(m+1) by omega),if_neg (show ¬ x = c.xSum by omega),its]
  | down =>
    simp only [walk,leftCell,Direction.clockwise,Direction.step,Nat.cast_add,Nat.cast_one] at *
    rw [← firstSide]
    by_cases edge : x = 0
    · subst edge
      rw [outside (0-1) (y-1) (.inl (by omega)),Bool.bne_false] at first
      simp only [if_true,if_neg (show ¬ y < y-(m+1) by omega),first]
    · have its := begun (by omega) (by omega) (by omega) (by omega)
      simp only [edge,if_true,if_false,if_neg (show ¬ y < y-(m+1) by omega),if_neg (show ¬ x = c.xSum by omega),its]
      revert first
      cases territory c territoryIds (x,y-1) <;> cases territory c territoryIds (x-1,y-1) <;> simp
  | right =>
    simp only [walk,leftCell,Direction.clockwise,Direction.step,Nat.cast_add,Nat.cast_one] at *
    rw [← lastSide,if_neg (by omega)]
    by_cases bottom : y = 0
    · subst bottom
      rw [outside (x+m) (0-1) (.inr (.inl (by omega))),Bool.bne_false] at last
      simp only [if_true,if_pos (show x < x+(m+1) by omega),last]
    · by_cases top : y = c.ySum
      · simp only [bottom,if_true,if_false,if_pos top,if_pos (show x < x+(m+1) by omega),outside (x+m) y (.inr (.inr (by omega))),
          Bool.false_eq_true]
      · have its := ended (by omega) (by omega) (by omega) (by omega)
        rw [show x+((m : Int)+1)-1 = x+m by omega] at its
        simp only [bottom,top,if_true,if_false,if_pos (show x < x+(m+1) by omega),its]
        revert last
        cases territory c territoryIds (x+m,y) <;> cases territory c territoryIds (x+m,y-1) <;> simp
  | left =>
    simp only [walk,leftCell,Direction.clockwise,Direction.step,Nat.cast_add,Nat.cast_one] at *
    rw [← firstSide,if_neg (by omega)]
    by_cases bottom : y = 0
    · simp only [bottom,if_true,if_neg (show ¬ x < x-(m+1) by omega),outside (x-1) (0-1) (.inr (.inl (by omega))),Bool.false_eq_true,if_false]
    · by_cases top : y = c.ySum
      · rw [outside (x-1) y (.inr (.inr (by omega))),Bool.bne_false] at first
        simp only [bottom,if_true,if_false,if_pos top,if_neg (show ¬ x < x-(m+1) by omega),first]
      · have its := begun (by omega) (by omega) (by omega) (by omega)
        simp only [bottom,top,if_true,if_false,if_neg (show ¬ x < x-(m+1) by omega),its]

end directions

section loops
variable {c : Config} {territoryIds : Territories} {used : Finset (Int × Int)} {p : Int × Int} {d e : Direction} {k : Nat} {a : Arc}
  {lines all : List Line} {line : List Pos} {found : List ((Int × Int) × Direction × Nat)}

def drawn (c : Config) (lines : List Line) : List (Pos × Direction) := lines.flatMap (fun line => covered c line.linePos)

theorem drawn_snoc (c : Config) (lines : List Line) (line : Line) : drawn c (lines++[line]) = drawn c lines++covered c line.linePos := by
  unfold drawn
  rw [List.flatMap_append,List.flatMap_singleton]

theorem covered_segments (long : ∀ segment ∈ found, 0 < segment.2.2) (sided : sides line = found.map (cornerEnds c)) :
    covered c line = (found.flatMap segmentArcs).map (fun a => unitOf c a.edge) := by
  unfold covered
  rw [sided,List.flatMap_map,List.map_flatMap]
  refine List.flatMap_congr (fun segment mem => ?_)
  dsimp only [cornerEnds,segmentArcs]
  rw [units_walk (long segment mem),List.map_map]
  exact List.map_congr_left (fun a _ => upward_unit a)

-- What the lines so far have covered: all the border at the points that are used.
structure Drawing (c : Config) (territoryIds : Territories) (used : Finset (Int × Int)) (lines : List Line) : Prop where
  axes : ∀ line ∈ lines, ∀ side ∈ sides line.linePos, heading side.1 side.2 ≠ none
  once : (drawn c lines).Nodup
  separating : ∀ unit ∈ drawn c lines, ∃ a, border (territory c territoryIds) a = true ∧ (a.2 = .up ∨ a.2 = .right) ∧
    (a.1 ∈ used ∧ a.head ∈ used) ∧ unit = unitOf c a
  whole : ∀ a, border (territory c territoryIds) a = true → a.1 ∈ used → unitOf c a.edge ∈ drawn c lines
  inside : ∀ line ∈ lines, ∃ first second rest, line.linePos = first::second::rest ∧ ∀ unit ∈ units c first second, ∃ p, unit.1 = cornerPos c p ∧
    line.direction = some (if territory c territoryIds (leftCell p unit.2) then .LEFT else .RIGHT)

namespace Drawing

theorem nothing (c : Config) (territoryIds : Territories) : Drawing c territoryIds ∅ [] where
  axes := fun _ mem => nomatch mem
  once := List.nodup_nil
  separating := fun _ mem => nomatch mem
  whole := fun _ _ mem => absurd mem (Finset.notMem_empty _)
  inside := fun _ mem => nomatch mem

theorem outlined (drawing : Drawing c territoryIds used lines)
    (done : ∀ p, numAt c territoryIds p ≠ 0 → numAt c territoryIds p < 4 → p ∈ used) : Outlined c territoryIds lines := by
  refine ⟨drawing.axes,drawing.once,fun unit => ⟨?_,?_⟩,drawing.inside⟩
  · intro mem
    obtain ⟨a,on,upwards,_,same⟩ := drawing.separating unit mem
    exact ⟨a.1,a.2,upwards,on,same⟩
  · rintro ⟨p,d,upwards,on,rfl⟩
    obtain ⟨there,partly⟩ := numAt_border on
    have mem := drawing.whole (p,d) on (done p there partly)
    rw [Arc.edge_of_upward upwards] at mem
    exact mem

theorem spreads (drawing : Drawing c territoryIds used lines) (on : border (territory c territoryIds) a = true) (there : a.1 ∈ used) : a.head ∈ used := by
  obtain ⟨b,_,_,⟨first,last⟩,same⟩ := drawing.separating _ (drawing.whole a on there)
  rw [← unitOf_inj c same] at first last
  rcases a.edge_ends with ⟨_,ends⟩ | ⟨ends,_⟩
  · rwa [ends] at last
  · rwa [ends] at first

theorem loop (drawing : Drawing c territoryIds used lines) (inner : Inner c territoryIds) (free : ∀ q, ¬ Contact (territory c territoryIds) q)
    (loop : Loop (territory c territoryIds) p d e k) (new : p ∉ used) {used' : Finset (Int × Int)}
    (grown : ∀ q, q ∈ used' ↔ q ∈ used ∨ ∃ a ∈ lap (territory c territoryIds) (p,d) (k+3), a.1 = q)
    (long : ∀ segment ∈ found, 0 < segment.2.2) (sided : sides line = found.map (cornerEnds c))
    (closed : (found.flatMap segmentArcs).Perm (lap (territory c territoryIds) (p,d) (k+3)))
    {first second : Pos} {rest : List Pos} (points : line = first::second::rest) :
    Drawing c territoryIds used' (lines++[⟨line,getLineDirection c first second territoryIds⟩]) := by
  have covers := closed.map (fun a => unitOf c a.edge)
  rw [← covered_segments long sided] at covers
  have apart (a : Arc) (mem : a ∈ lap (territory c territoryIds) (p,d) (k+3)) : a.1 ∉ used := fun there =>
    new (loop.reaches free (fun _ on mem => drawing.spreads on mem) mem there)
  have ends (a : Arc) (mem : a ∈ lap (territory c territoryIds) (p,d) (k+3)) :
      (∃ b ∈ lap (territory c territoryIds) (p,d) (k+3), b.1 = a.edge.1) ∧ ∃ b ∈ lap (territory c territoryIds) (p,d) (k+3), b.1 = a.edge.head := by
    have next := loop.follow_mem free mem
    rcases a.edge_ends with ⟨one,two⟩ | ⟨one,two⟩
    · exact ⟨⟨a,mem,one.symm⟩,_,next,two.symm⟩
    · exact ⟨⟨_,next,one.symm⟩,a,mem,two.symm⟩
  have onLap (a : Arc) (mem : a ∈ lap (territory c territoryIds) (p,d) (k+3)) : border (territory c territoryIds) a = true := by
    obtain ⟨j,_,rfl⟩ := mem_lap.mp mem
    exact orbit_border loop.on j
  refine ⟨?_,?_,?_,?_,?_⟩
  · intro other mem side its
    rcases List.mem_append.mp mem with earlier | last
    · exact drawing.axes other earlier side its
    · rw [List.mem_singleton.mp last,sided] at its
      obtain ⟨segment,memToo,rfl⟩ := List.mem_map.mp its
      rw [cornerEnds,heading_walk (long segment memToo)]
      exact Option.some_ne_none _
  · rw [drawn_snoc]
    refine List.nodup_append.mpr ⟨drawing.once,?_,?_⟩
    · refine covers.nodup_iff.mpr ?_
      have edges := (loop.edges_nodup free).map (unitOf_inj c)
      rwa [List.map_map] at edges
    · rintro unit before other after rfl
      obtain ⟨b,_,_,⟨first,_⟩,same⟩ := drawing.separating unit before
      obtain ⟨a,mem,rfl⟩ := List.mem_map.mp (covers.mem_iff.mp after)
      obtain ⟨⟨source,memToo,begins⟩,_⟩ := ends a mem
      refine apart source memToo ?_
      rw [begins,unitOf_inj c same]
      exact first
  · intro unit mem
    rw [drawn_snoc] at mem
    rcases List.mem_append.mp mem with before | after
    · obtain ⟨a,on,upwards,⟨first,last⟩,same⟩ := drawing.separating unit before
      exact ⟨a,on,upwards,⟨(grown _).mpr (.inl first),(grown _).mpr (.inl last)⟩,same⟩
    · obtain ⟨a,its,rfl⟩ := List.mem_map.mp (covers.mem_iff.mp after)
      obtain ⟨first,last⟩ := ends a its
      exact ⟨a.edge,(border_edge a).trans (onLap a its),a.edge_upward,⟨(grown _).mpr (.inr first),(grown _).mpr (.inr last)⟩,rfl⟩
  · intro a on there
    rw [drawn_snoc]
    rcases (grown a.1).mp there with before | ⟨b,its,source⟩
    · exact List.mem_append_left _ (drawing.whole a on before)
    · refine List.mem_append_right _ (covers.mem_iff.mpr ?_)
      have edges := loop.all_edges free its (f:=a.2) (by rwa [source])
      rw [source] at edges
      obtain ⟨other,memToo,same⟩ := List.mem_map.mp edges
      exact List.mem_map.mpr ⟨other,memToo,congrArg (unitOf c) same⟩
  · intro other mem
    rcases List.mem_append.mp mem with earlier | last
    · exact drawing.inside other earlier
    · rw [List.mem_singleton.mp last]
      refine ⟨first,second,rest,points,?_⟩
      have side : (first,second) ∈ sides line := by
        rw [points]
        exact List.mem_cons_self
      rw [sided] at side
      obtain ⟨segment,its,ended⟩ := List.mem_map.mp side
      obtain ⟨q,f,m⟩ := segment
      have positive := long _ its
      obtain ⟨m,rfl⟩ := Nat.exists_eq_succ_of_ne_zero positive.ne'
      cases ended
      have within (a : Arc) (mem : a ∈ straight q f (m+1)) : a ∈ lap (territory c territoryIds) (p,d) (k+3) :=
        closed.mem_iff.mp (List.mem_flatMap.mpr ⟨_,its,mem⟩)
      intro unit mem
      dsimp only at mem
      rw [units_walk positive] at mem
      obtain ⟨a,its,rfl⟩ := List.mem_map.mp mem
      refine ⟨a.1,rfl,?_⟩
      have named := getLineDirection_walk inner (fun a mem => onLap a (within a mem)) (fun a mem => lap_side (within a mem))
      rw [← lap_side (within a its)] at named
      exact named

end Drawing
end loops

section lines
variable {c : Config} {territoryIds : Territories} {traversal : Traversal} {territoryPos : TerritoryPos} {used : Finset (Int × Int)}
  {p s : Int × Int} {d : Direction} {k walks fuel : Nat} {path : List Arc} {last : Arc} {legs : Legs} {w : Walk} {lines all : List Line}

-- Without contacts the walk is one lap of the border, and the way back closes it.
theorem walk_lap (free : ∀ q, ¬ Contact (territory c territoryIds) q) (loop : Loop (territory c territoryIds) s d e k)
    (trail : Trail (avoid (territory c territoryIds) s) (s,d) path) : (s,d)::path = lap (territory c territoryIds) (s,d) (k+2) := by
  rw [trail_unique trail (loop.trail free),lap_cons]

theorem lap_line (free : ∀ q, ¬ Contact (territory c territoryIds) q) (loop : Loop (territory c territoryIds) s d e k)
    (going : Going c territoryIds s used legs last w) (stops : avoid (territory c territoryIds) s last = none)
    (its : arcs s legs = lap (territory c territoryIds) (s,d) (k+2)) (ended : (arcs s legs).getLast? = some last) :
    ∃ found : List ((Int × Int) × Direction × Nat), (∀ segment ∈ found, 0 < segment.2.2) ∧
      sides (trimmed (closedLine c s (follow (territory c territoryIds) last).2 legs)) = found.map (cornerEnds c) ∧
      (found.flatMap segmentArcs).Perm (lap (territory c territoryIds) (s,d) (k+3)) := by
  have off := @follow_ne_opposite (territory c territoryIds) last
  have bent := going.onward off
  have long := going.closed_length stops
  rw [closedLine_length] at long
  have closed : endOf s (addStep (follow (territory c territoryIds) last).2 legs) = s := by
    rw [endOf_addStep,going.ends]
    exact going.closes stops
  rw [its,lap_succ _ _ (k+1),List.getLast?_concat] at ended
  cases ended
  have next : (follow (territory c territoryIds))^[k+2] (s,d) =
      follow (territory c territoryIds) ((follow (territory c territoryIds))^[k+1] (s,d)) := Function.iterate_succ_apply' _ _ _
  have whole : arcs s (addStep (follow (territory c territoryIds) ((follow (territory c territoryIds))^[k+1] (s,d))).2 legs) =
      lap (territory c territoryIds) (s,d) (k+3) := by
    rw [arcs_addStep,its,going.ends,lap_succ _ _ (k+2),next]
    rfl
  obtain ⟨n,rest,grown⟩ := head_addStep (follow (territory c territoryIds) ((follow (territory c territoryIds))^[k+1] (s,d))).2 legs
  unfold closedLine
  rw [grown] at bent long closed whole ⊢
  rcases List.eq_nil_or_concat rest with rfl | ⟨mid,first,rfl⟩
  · exact absurd long (by simp)
  · obtain ⟨f,m⟩ := first
    rw [List.concat_eq_append] at bent closed whole ⊢
    have begins : f = d := by
      obtain ⟨others,segments_⟩ := segments_first s ((_,n)::mid) (f,m)
      have positive : 0 < m := bent.long (f,m) (by simp)
      obtain ⟨m,rfl⟩ := Nat.exists_eq_succ_of_ne_zero positive.ne'
      have same := congrArg List.head? whole
      rw [← List.cons_append,arcs_segments,segments_,List.flatMap_cons,straight_cons,lap_cons] at same
      exact congrArg Prod.snd (Option.some.inj same)
    subst begins
    obtain ⟨found,positive,sided,perm⟩ := closed_segments (c:=c) bent closed (by
      have onward := @follow_ne_opposite (territory c territoryIds) ((follow (territory c territoryIds))^[k+2] (s,f))
      rw [← Function.iterate_succ_apply' (follow _),loop.period free,next] at onward
      exact onward)
    rw [← whole]
    exact ⟨found,positive,sided,perm⟩

theorem lap_heads {region : Cell → Bool} {a : Arc} (n : Nat) : ((lap region a n).map Arc.head) = (lap region a (n+1)).tail.map Prod.fst := by
  rw [lap_cons,List.tail_cons,lap,List.map_map,List.map_map]
  refine List.map_congr_left (fun j _ => ?_)
  dsimp only [Function.comp]
  rw [Function.iterate_succ_apply']
  rfl

theorem linesFrom_outlined (rows : 2 ≤ c.ySum) (inner : Inner c territoryIds) (free : ∀ q, ¬ Contact (territory c territoryIds) q)
    (marked : Marked c territoryIds used territoryPos) (drawing : Drawing c territoryIds used lines)
    (returned : linesFrom c walks traversal territoryIds fuel territoryPos lines = .returned all) : Outlined c territoryIds all := by
  induction fuel generalizing territoryPos used lines with
  | zero => cases returned
  | succ fuel ih =>
    unfold linesFrom at returned
    by_cases empty : territoryPos.keys = []
    · rw [if_pos empty] at returned
      cases returned
      refine drawing.outlined (fun p there _ => ?_)
      have vertex := marked.found p
      rw [if_neg there] at vertex
      obtain ⟨posInfo,column,_⟩ := Option.bind_eq_some_iff.mp vertex
      exact absurd empty (List.ne_nil_of_mem (Table.mem_of_lookup column))
    rw [if_neg empty] at returned
    cases begins : startPos traversal territoryPos with
    | none =>
      unfold calculateTerritoryLine at returned
      rw [begins] at returned
      cases returned
      exact drawing.outlined (fun p there partly => all_used marked begins there partly)
    | some pos =>
      obtain ⟨p,rfl,there,partly,new⟩ := start_corner marked begins
      obtain ⟨d,first⟩ := first_exists there partly
      have on := first_border first
      cases walked : walkOn c territoryIds c.xSum (cornerPos c p) walks (Walk.begins territoryPos (cornerPos c p)) with
      | none =>
        unfold calculateTerritoryLine at returned
        rw [begins] at returned
        dsimp only at returned
        rw [walked] at returned
        cases returned
      | some r =>
        obtain ⟨path,trail,rfl⟩ := walkOn_begins rows inner marked there first walked
        obtain ⟨last,legs,w,going,stops,its,ended,calculated⟩ := calculate_line marked begins first trail walked
        obtain ⟨e,returns⟩ := returns_exists (territory_finite c territoryIds) on
        obtain ⟨k,loop⟩ := returns.loop on
        have whole := walk_lap free loop trail
        rw [← its] at ended
        have drawn_ := its.trans whole
        obtain ⟨found,long,sided,closed⟩ := lap_line free loop going stops drawn_ ended
        have marked' := going.marked
        rw [whole,lap_heads] at marked'
        rw [calculated] at returned
        generalize trimmed (closedLine c p (follow (territory c territoryIds) last).2 legs) = line at sided returned
        cases line with
        | nil =>
          have none_ : found = [] := List.map_eq_nil_iff.mp sided.symm
          rw [none_,lap_cons] at closed
          exact absurd closed.symm.eq_nil (List.cons_ne_nil _ _)
        | cons first more =>
          cases more with
          | nil => cases returned
          | cons second rest =>
            refine ih marked' (drawing.loop inner free loop new ?_ long sided closed rfl) returned
            intro q
            rw [Finset.mem_union,Finset.mem_insert,List.mem_toFinset,← List.mem_map]
            rw [lap_cons _ _ (k+2)]
            simp
            tauto

end lines

section inside
variable {c : Config} {territoryIds : Territories} {traversal : Traversal} {territoryPos : TerritoryPos} {order : Order Int} {startPos pos : Pos}
  {walks fuel : Nat} {w r : Walk} {lines all : List Line} {line : List Pos} {unit : Pos × Direction}

-- No vertex is on the right side of the map.
def LeftOf (c : Config) (territoryPos : TerritoryPos) : Prop :=
  ∀ (pos : Pos) (useInfo : Vertex), territoryPos.find pos.1 pos.2 = some useInfo → pos.1 < c.kingdomMapLength

theorem vertexPoses_left (c : Config) (order : Order Int) (territoryIds : Territories) :
    LeftOf c (getAllTerritoryVertexPoses c order territoryIds c.xSum) := by
  intro pos useInfo found
  rw [find_vertexPoses] at found
  split at found
  next mem =>
    obtain ⟨id,_,corner⟩ := (mem_vertexPoses c order territoryIds c.xSum pos).mp mem
    have columns := columns_pos c
    have below : id % c.xSum < c.xSum := Int.emod_lt_of_pos id (by exact_mod_cast columns)
    have size := size_int c
    have far : id % c.xSum*c.territorySizeMin < c.kingdomMapLength := by
      rw [kingdomMapLength_eq]
      exact mul_lt_mul_of_pos_right below size
    rw [vertexPoses] at corner
    simp only [List.mem_cons,List.not_mem_nil,or_false,sub_mul,one_mul] at corner
    rcases corner with rfl | rfl | rfl | rfl <;> dsimp only <;> omega
  next => cases found

theorem LeftOf.setUse (left : LeftOf c territoryPos) (pos : Pos) : LeftOf c (setUse territoryPos pos) := by
  intro other useInfo found
  unfold GuildTerritoryLogic.setUse at found
  rw [NestedTable.find_adjust] at found
  split at found
  · obtain ⟨before,there,_⟩ := Option.map_eq_some_iff.mp found
    exact left other before there
  · exact left other useInfo found

theorem advance_points {nextPos : Pos} (mem : pos ∈ (w.advance nextPos).line) : pos ∈ w.line ∨ pos = nextPos := by
  have either (goesOn : Bool) (mem : pos ∈ if goesOn then w.line.dropLast else w.line) : pos ∈ w.line := by
    cases goesOn
    · exact mem
    · exact List.dropLast_subset _ mem
  rcases List.mem_append.mp mem with before | here
  · exact .inl (either _ before)
  · exact .inr (List.mem_singleton.mp here)

theorem finish_points (finished : w.finish startPos = some line) (mem : pos ∈ line) : pos ∈ w.line := by
  unfold Walk.finish at finished
  dsimp only at finished
  split at finished
  next first second rest parts =>
    have begun : first::second::rest ⊆ w.line := by
      rw [← parts]
      split
      · exact List.Subset.refl _
      · split
        · exact List.dropLast_subset _
        · exact List.Subset.refl _
    rw [parts] at finished
    cases finished
    split at mem
    · exact begun (List.mem_cons_of_mem _ mem)
    · exact begun mem
  next => cases finished

structure Walk.Left (c : Config) (w : Walk) : Prop where
  table : LeftOf c w.territoryPos
  line : ∀ pos ∈ w.line, pos.1 < c.kingdomMapLength

theorem Walk.Left.search (left : w.Left c) (territoryIds : Territories) (width : Int) (startPos : Pos) :
    (w.search c territoryIds width startPos).Left c := by
  unfold Walk.search
  dsimp only
  split
  · exact ⟨left.table,left.line⟩
  next free =>
    split
    · refine ⟨left.table.setUse _,fun pos mem => ?_⟩
      rcases advance_points mem with before | rfl
      · exact left.line pos before
      · unfold blocked at free
        split at free
        · exact absurd rfl free
        next useInfo found => exact left.table _ useInfo found
    · exact ⟨left.table,left.line⟩

theorem Walk.Left.walkOn (left : w.Left c) (ended : walkOn c territoryIds c.xSum startPos fuel w = some r) : r.Left c := by
  induction fuel generalizing w with
  | zero => cases ended
  | succ fuel ih =>
    unfold GuildTerritoryLogic.walkOn at ended
    dsimp only at ended
    have next := left.search territoryIds c.xSum startPos
    split at ended
    · cases ended
      exact next
    · exact ih next ended

theorem calculate_left {territoryPos' : TerritoryPos} (left : LeftOf c territoryPos)
    (calculated : calculateTerritoryLine c walks traversal territoryIds c.xSum territoryPos = .returned (line,territoryPos')) :
    LeftOf c territoryPos' ∧ ∀ pos ∈ line, pos.1 < c.kingdomMapLength := by
  unfold calculateTerritoryLine at calculated
  split at calculated
  next =>
    cases calculated
    exact ⟨left,fun _ mem => nomatch mem⟩
  next startPos begins =>
    obtain ⟨useInfo,vertex,_⟩ := startPos_some begins
    have first : (Walk.begins territoryPos startPos).Left c := by
      refine ⟨left.setUse _,fun pos mem => ?_⟩
      rw [List.mem_singleton.mp mem]
      exact left _ useInfo vertex
    split at calculated
    next => cases calculated
    next r walked =>
      have ended := first.walkOn walked
      split at calculated
      next => cases calculated
      next found finished =>
        cases calculated
        exact ⟨ended.table,fun pos mem => ended.line pos (finish_points finished mem)⟩

theorem linesFrom_left (left : LeftOf c territoryPos) (before : ∀ line ∈ lines, ∀ pos ∈ line.linePos, pos.1 < c.kingdomMapLength)
    (returned : linesFrom c walks traversal territoryIds fuel territoryPos lines = .returned all) :
    ∀ line ∈ all, ∀ pos ∈ line.linePos, pos.1 < c.kingdomMapLength := by
  induction fuel generalizing territoryPos lines with
  | zero => cases returned
  | succ fuel ih =>
    unfold linesFrom at returned
    split at returned
    · cases returned
      exact before
    · split at returned
      · cases returned
      · cases returned
      · cases returned
        exact before
      · cases returned
      next first second rest territoryPos' calculated =>
        obtain ⟨left',points⟩ := calculate_left left calculated
        refine ih left' (fun line mem => ?_) returned
        rcases List.mem_append.mp mem with earlier | last
        · exact before line earlier
        · rw [List.mem_singleton.mp last]
          exact points

theorem covered_column (mem : unit ∈ covered c line) (vertical : unit.2 = .up) : ∃ pos ∈ line, unit.1.1 = pos.1 := by
  obtain ⟨side,its,passed⟩ := List.mem_flatMap.mp mem
  obtain ⟨passing,units_,rfl⟩ := List.mem_map.mp passed
  have point : side.1 ∈ line := by
    rcases List.mem_append.mp (List.of_mem_zip its).1 with first | closing
    · exact first
    · exact List.mem_of_mem_take closing
  refine ⟨side.1,point,?_⟩
  unfold units at units_
  split at units_
  · cases units_
  next d way =>
    obtain ⟨k,_,rfl⟩ := List.mem_map.mp units_
    cases d with
    | up => rfl
    | down => rfl
    | left => cases vertical
    | right => cases vertical

theorem not_outlined (ofMap : OfMap c territoryIds) (outer : ¬ Inner c territoryIds)
    (returned : refreshTerritoryLines c fuel order traversal territoryIds = .returned all) : ¬ Outlined c territoryIds all := by
  intro outlined
  unfold Inner at outer
  push Not at outer
  obtain ⟨id,its,lastColumn⟩ := outer
  obtain ⟨low,high⟩ := ofMap id its
  have inside := Grid.cellOf_inside (g:=c.grid) low high
  have number := Grid.number_cellOf c.grid id
  have remainder := number_emod inside
  rw [number,lastColumn] at remainder
  have column : (c.grid.cellOf id).1+1 = c.xSum := by
    by_contra other
    rw [if_neg other] at remainder
    have left : 0 ≤ (c.grid.cellOf id).1 := inside.1.1
    omega
  have mem : territory c territoryIds (c.grid.cellOf id) = true := territory_iff.mpr ⟨inside,by rwa [number]⟩
  have off : territory c territoryIds ((c.grid.cellOf id).1+1,(c.grid.cellOf id).2) = false :=
    territory_outside (fun inside => absurd inside.1.2 (by rw [column]; exact lt_irrefl _))
  have on : border (territory c territoryIds) (((c.grid.cellOf id).1+1,(c.grid.cellOf id).2),.up) = true := by
    rw [border_straight]
    change (territory c territoryIds ((c.grid.cellOf id).1+1-1,(c.grid.cellOf id).2) != territory c territoryIds
      ((c.grid.cellOf id).1+1,(c.grid.cellOf id).2)) = true
    rw [add_sub_cancel_right,off,Bool.bne_false]
    exact mem
  obtain ⟨line,listed,passed⟩ := List.mem_flatMap.mp ((outlined.separating _).mpr ⟨_,_,.inl rfl,on,rfl⟩)
  obtain ⟨pos,point,same⟩ := covered_column passed rfl
  have left := linesFrom_left (vertexPoses_left c order territoryIds) (fun _ mem => absurd mem List.not_mem_nil) returned line listed
    pos point
  have right := (corner_right c ((c.grid.cellOf id).1+1,(c.grid.cellOf id).2)).mpr column
  rw [← same] at left
  exact absurd right left.ne

theorem outlines_exact (rows : 2 ≤ c.ySum) (ofMap : OfMap c territoryIds) (free : ∀ p, ¬ Contact (territory c territoryIds) p)
    (returned : refreshTerritoryLines c fuel order traversal territoryIds = .returned all) : Outlined c territoryIds all ↔ Inner c territoryIds := by
  constructor
  · intro outlined
    by_contra outer
    exact not_outlined ofMap outer returned outlined
  · intro inner
    exact linesFrom_outlined rows inner free (all_marked ofMap inner order) (.nothing c territoryIds) returned

theorem tile_outlined : Outlined narrow (tiles [1]) [⟨[(0,0),(0,18),(18,18),(18,0)],some .RIGHT⟩] := by
  obtain ⟨ofMap,inner⟩ := @tiles_ofMap narrow [1] (by decide)
  have returned : refreshTerritoryLines narrow 20 .stored (.front (0,0)) (tiles [1]) = .returned [⟨[(0,0),(0,18),(18,18),(18,0)],some .RIGHT⟩] := by
    decide +kernel
  exact (outlines_exact (by decide) ofMap tile_free returned).mpr inner

-- Two tiles that touch at a corner alone, from the far corner of the one: the second line goes
-- round both of them.
theorem corner_outlined_twice : ¬ ∀ fuel order traversal lines, refreshTerritoryLines narrow fuel order traversal (tiles [1,6]) = .returned lines →
    Outlined narrow (tiles [1,6]) lines := by
  intro outlined
  have returned : refreshTerritoryLines narrow 30 .stored (.front (36,36)) (tiles [1,6]) = .returned
      [⟨[(36,36),(18,36),(18,18),(36,18)],some .LEFT⟩,
        ⟨[(0,0),(0,18),(18,18),(18,36),(36,36),(36,18),(0,18),(0,0)],some .RIGHT⟩] := by
    decide +kernel
  have once := (outlined _ _ _ _ returned).once
  revert once
  decide +kernel

end inside
end OriginGame.GuildTerritoryLogic
