import OriginGame.TerritoryWalk

namespace OriginGame.GuildTerritoryLogic
open Border Polyline

section starts
variable {c : Config} {territoryIds : Territories} {traversal : Traversal} {territoryPos : TerritoryPos} {used : Finset (Int × Int)} {p : Int × Int}
  {pos : Pos} {useInfo : Vertex}

theorem startPos_some (found : startPos traversal territoryPos = some pos) :
    ∃ useInfo, territoryPos.find pos.1 pos.2 = some useInfo ∧ useInfo.num < 4 ∧ useInfo.use = false := by
  obtain ⟨xPos,_,inColumn⟩ := List.exists_of_findSome?_eq_some found
  obtain ⟨posInfo,column,inColumn⟩ := Option.bind_eq_some_iff.mp inColumn
  obtain ⟨yPos,_,here⟩ := List.exists_of_findSome?_eq_some inColumn
  obtain ⟨useInfo,vertex,here⟩ := Option.bind_eq_some_iff.mp here
  split at here
  next free =>
    cases here
    exact ⟨useInfo,(NestedTable.find_row column yPos).trans vertex,free⟩
  next => cases here

theorem startPos_none (missing : startPos traversal territoryPos = none) (vertex : territoryPos.find pos.1 pos.2 = some useInfo) :
    ¬ (useInfo.num < 4 ∧ useInfo.use = false) := by
  intro free
  obtain ⟨posInfo,column,row⟩ := Option.bind_eq_some_iff.mp vertex
  have inColumn := List.findSome?_eq_none_iff.mp missing pos.1 (Table.visit_of_found column)
  rw [column,Option.bind_some] at inColumn
  have here := List.findSome?_eq_none_iff.mp inColumn pos.2 (Table.visit_of_found row)
  rw [row,Option.bind_some,if_pos free] at here
  cases here

theorem start_corner (marked : Marked c territoryIds used territoryPos) (found : startPos traversal territoryPos = some pos) :
    ∃ p, pos = cornerPos c p ∧ numAt c territoryIds p ≠ 0 ∧ numAt c territoryIds p < 4 ∧ p ∉ used := by
  obtain ⟨useInfo,vertex,partly,free⟩ := startPos_some found
  obtain ⟨p,rfl⟩ := marked.corner pos useInfo vertex
  rw [marked.found p] at vertex
  split at vertex
  · cases vertex
  · rename_i there
    cases vertex
    exact ⟨p,rfl,there,partly,of_decide_eq_false free⟩

theorem all_used (marked : Marked c territoryIds used territoryPos) (missing : startPos traversal territoryPos = none)
    (there : numAt c territoryIds p ≠ 0) (partly : numAt c territoryIds p < 4) : p ∈ used := by
  have vertex := marked.found p
  rw [if_neg there] at vertex
  by_contra free
  exact startPos_none missing vertex ⟨partly,decide_eq_false free⟩

-- The point is the first that `pairs` comes to.
def Traversal.front (pos : Pos) : Traversal := ⟨Order.front pos.1,fun _ => Order.front pos.2⟩

theorem start_front (marked : Marked c territoryIds used territoryPos) (there : numAt c territoryIds p ≠ 0) (partly : numAt c territoryIds p < 4)
    (free : p ∉ used) : startPos (.front (cornerPos c p)) territoryPos = some (cornerPos c p) := by
  have vertex := marked.found p
  rw [if_neg there] at vertex
  obtain ⟨posInfo,column,row⟩ := Option.bind_eq_some_iff.mp vertex
  have first (k : Int) (keys : List Int) (mem : k ∈ keys) : (Order.front k).visit keys = k::keys.erase k := if_pos mem
  unfold startPos
  change List.findSome? _ ((Order.front (cornerPos c p).1).visit territoryPos.keys) = _
  rw [first _ _ (Table.mem_of_lookup column),List.findSome?_cons]
  dsimp only [Traversal.front]
  rw [column,Option.bind_some,first _ _ (Table.mem_of_lookup row),List.findSome?_cons,row,Option.bind_some,if_pos ⟨partly,decide_eq_false free⟩]

end starts

-- From each point of the border the loops come back at last by a way that is no contact.
def Open (region : Cell → Bool) (p : Int × Int) : Prop :=
  ∀ d, firstDirection region p = some d → ∃ e, Relation.TransGen (ReturnsTo region p) d e ∧ ¬ Contact region (e.step p)

theorem open_free {region : Cell → Bool} (finite : {cell | region cell = true}.Finite) (free : ∀ p, ¬ Contact region p) (p : Int × Int) : Open region p := by
  intro d first
  obtain ⟨e,returns⟩ := returns_exists finite (first_border first)
  exact ⟨e,.single returns,free _⟩

theorem alone_free {region : Cell → Bool} (alone : ∀ cell other, region cell = true → region other = true → cell = other) (p : Int × Int) :
    ¬ Contact region p := by
  intro contact
  have up := contact .up
  have right := contact .right
  have down := contact .down
  rw [border_straight] at up right down
  have across : ¬ (region (leftCell p .right) = true ∧ region (leftCell p .left) = true) := by
    rintro ⟨one,two⟩
    have same := congrArg Prod.fst (alone _ _ one two)
    simp only [leftCell] at same
    omega
  have other : ¬ (region (leftCell p .up) = true ∧ region (leftCell p .down) = true) := by
    rintro ⟨one,two⟩
    have same := congrArg Prod.fst (alone _ _ one two)
    simp only [leftCell] at same
    omega
  simp only [Direction.clockwise] at up right down
  revert up right down across other
  cases region (leftCell p .right) <;> cases region (leftCell p .up) <;> cases region (leftCell p .left) <;> cases region (leftCell p .down) <;>
    simp

section walks
variable {c : Config} {territoryIds : Territories} {traversal : Traversal} {territoryPos : TerritoryPos} {used : Finset (Int × Int)} {p : Int × Int}
  {walks fuel : Nat} {d : Direction} {path : List Arc} {lines : List Line}

theorem calculate_line (marked : Marked c territoryIds used territoryPos) (found : startPos traversal territoryPos = some (cornerPos c p))
    (first : firstDirection (territory c territoryIds) p = some d) (trail : Trail (avoid (territory c territoryIds) p) (p,d) path)
    (walked : walkOn c territoryIds c.xSum (cornerPos c p) walks (Walk.begins territoryPos (cornerPos c p)) =
      some (Walk.turn^[3] (path.foldl (Walk.along c) ((Walk.begins territoryPos (cornerPos c p)).along c (p,d))))) : ∃ last legs w, Going c territoryIds p (insert p used ∪ (((p,d)::path).map Arc.head).toFinset) legs last w ∧
      avoid (territory c territoryIds) p last = none ∧ arcs p legs = (p,d)::path ∧ ((p,d)::path).getLast? = some last ∧
      calculateTerritoryLine c walks traversal territoryIds c.xSum territoryPos =
        .returned (trimmed (closedLine c p (follow (territory c territoryIds) last).2 legs),w.territoryPos) := by
  obtain ⟨last,legs,going,stops,drawn,ended⟩ := (begins_going marked (first_border first)).trail trail
  refine ⟨last,legs,path.foldl (Walk.along c) ((Walk.begins territoryPos (cornerPos c p)).along c (p,d)),?_,stops,drawn.trans (congrArg (·++path) (arcs_addStep d [])),ended,?_⟩
  · rw [List.map_cons,List.toFinset_cons,Finset.union_insert,← Finset.insert_union]
    exact going
  · unfold calculateTerritoryLine
    rw [found]
    dsimp only
    rw [walked]
    dsimp only
    have finished := going.finish stops
    rw [← Walk.finish_turn,← Walk.finish_turn,← Walk.finish_turn] at finished
    rw [show ∀ w, Walk.turn^[3] w = w.turn.turn.turn from fun _ => rfl,finished]
    rfl

-- The points of the border, of which each walk uses up one at least.
theorem border_points_finite (c : Config) (territoryIds : Territories) : {p | numAt c territoryIds p ≠ 0 ∧ numAt c territoryIds p < 4}.Finite := by
  refine ((border_finite (territory_finite c territoryIds)).image Prod.fst).subset (fun p both => ?_)
  obtain ⟨d,on⟩ := border_numAt both.1 both.2
  exact ⟨(p,d),on,rfl⟩

theorem linesFrom_returns (rows : 2 ≤ c.ySum) (inner : Inner c territoryIds) {points : Finset (Int × Int)}
    (listed : ∀ p, p ∈ points ↔ numAt c territoryIds p ≠ 0 ∧ numAt c territoryIds p < 4)
    (ends : ∀ p ∈ points, ∃ d path, firstDirection (territory c territoryIds) p = some d ∧
      Trail (avoid (territory c territoryIds) p) (p,d) path ∧ 3*path.length+7 ≤ walks)
    (marked : Marked c territoryIds used territoryPos) (left : (points \ used).card < fuel) (lines : List Line) :
    ∃ all, linesFrom c walks traversal territoryIds fuel territoryPos lines = .returned all := by
  induction fuel generalizing territoryPos used lines with
  | zero => exact absurd left (Nat.not_lt_zero _)
  | succ fuel ih =>
    unfold linesFrom
    by_cases empty : territoryPos.keys = []
    · exact ⟨lines,if_pos empty⟩
    rw [if_neg empty]
    cases begins : startPos traversal territoryPos with
    | none =>
      refine ⟨lines,?_⟩
      unfold calculateTerritoryLine
      rw [begins]
    | some pos =>
      obtain ⟨p,rfl,there,partly,free⟩ := start_corner marked begins
      obtain ⟨d,path,first,trail,enough⟩ := ends p ((listed p).mpr ⟨there,partly⟩)
      have walked := walkOn_mono enough (begins_walkOn rows inner marked there first trail)
      obtain ⟨last,legs,w,going,stops,_,_,calculated⟩ := calculate_line marked begins first trail walked
      have long := going.closed_length stops
      have trims := trimmed_length (closedLine c p (follow (territory c territoryIds) last).2 legs)
      rw [calculated]
      generalize trimmed (closedLine c p (follow (territory c territoryIds) last).2 legs) = line at trims
      match line with
      | [] => exact absurd trims (by simp; omega)
      | [_] => exact absurd trims (by simp; omega)
      | first::second::rest =>
        refine ih going.marked ?_ _
        refine Nat.lt_of_lt_of_le (Finset.card_lt_card ?_) (Nat.le_of_lt_succ left)
        refine Finset.ssubset_iff_subset_ne.mpr ⟨Finset.sdiff_subset_sdiff (Finset.Subset.refl _) ?_,?_⟩
        · exact Finset.Subset.trans (Finset.subset_insert p used) Finset.subset_union_left
        · intro same
          have before : p ∈ points \ used := Finset.mem_sdiff.mpr ⟨(listed p).mpr ⟨there,partly⟩,free⟩
          rw [← same] at before
          exact (Finset.mem_sdiff.mp before).2 (Finset.mem_union_left _ (Finset.mem_insert_self _ _))

theorem refresh_unfinished (rows : 2 ≤ c.ySum) (ofMap : OfMap c territoryIds) (inner : Inner c territoryIds)
    (loops : ¬ Open (territory c territoryIds) p) (order : Order Int) (fuel : Nat) :
    refreshTerritoryLines c fuel order (.front (cornerPos c p)) territoryIds = .unfinished := by
  unfold Open at loops
  push Not at loops
  obtain ⟨d,first,contacts⟩ := loops
  have on := first_border first
  obtain ⟨there,partly⟩ := numAt_border on
  have marked := all_marked ofMap inner order
  have vertex := marked.found p
  rw [if_neg there] at vertex
  obtain ⟨posInfo,column,_⟩ := Option.bind_eq_some_iff.mp vertex
  unfold refreshTerritoryLines
  cases fuel with
  | zero => rfl
  | succ fuel =>
    unfold linesFrom
    rw [if_neg (List.ne_nil_of_mem (Table.mem_of_lookup column))]
    have never : walkOn c territoryIds c.xSum (cornerPos c p) (fuel+1) (Walk.begins (getAllTerritoryVertexPoses c order territoryIds c.xSum) (cornerPos c p)) =
        none := by
      by_contra ended
      obtain ⟨r,ended⟩ := Option.ne_none_iff_exists'.mp ended
      obtain ⟨path,trail,_⟩ := walkOn_begins rows inner marked there first ended
      obtain ⟨e,chain,free⟩ := (ends_iff (territory_finite c territoryIds) on).mp (ends_trail.mpr ⟨path,trail⟩)
      exact free (contacts e chain)
    unfold calculateTerritoryLine
    rw [start_front marked there partly (Finset.notMem_empty p)]
    dsimp only
    rw [never]

theorem outlines_end (rows : 2 ≤ c.ySum) (ofMap : OfMap c territoryIds) (inner : Inner c territoryIds) :
    (∀ order traversal, ∃ fuel lines, refreshTerritoryLines c fuel order traversal territoryIds = .returned lines) ↔
      ∀ p, Open (territory c territoryIds) p := by
  constructor
  · intro returns p
    by_contra loops
    obtain ⟨fuel,lines,returned⟩ := returns .stored (.front (cornerPos c p))
    rw [refresh_unfinished rows ofMap inner loops] at returned
    cases returned
  · intro open_ order traversal
    have finite := border_points_finite c territoryIds
    have trails : ∀ p ∈ finite.toFinset, ∃ n d path, firstDirection (territory c territoryIds) p = some d ∧
        Trail (avoid (territory c territoryIds) p) (p,d) path ∧ 3*path.length+7 = n := by
      intro p mem
      obtain ⟨there,partly⟩ := finite.mem_toFinset.mp mem
      obtain ⟨d,first⟩ := first_exists there partly
      obtain ⟨path,trail⟩ := ends_trail.mp ((ends_iff (territory_finite c territoryIds) (first_border first)).mpr (open_ p d first))
      exact ⟨_,d,path,first,trail,rfl⟩
    choose! length trails using trails
    let fuel := finite.toFinset.sup length+finite.toFinset.card+1
    refine ⟨fuel,?_⟩
    refine linesFrom_returns rows inner (fun p => finite.mem_toFinset) ?_ (all_marked ofMap inner order) ?_ []
    · intro p mem
      obtain ⟨d,path,first,trail,long⟩ := trails p mem
      have bound := Finset.le_sup (f:=length) mem
      exact ⟨d,path,first,trail,by omega⟩
    · rw [Finset.sdiff_empty]
      omega

end walks

section maps

-- A map of four columns and three rows.
def narrow : Config := ⟨72,54,18,small.size_pos,by decide,small.width_pos,⟨4,rfl⟩,small.width_dvd⟩

def tiles (ids : List Int) : Territories := ids.foldr (fun id territoryIds => territoryIds.insert id ()) ∅

theorem mem_tiles {ids : List Int} {id : Int} : id ∈ tiles ids ↔ id ∈ ids := by
  induction ids with
  | nil => simp [tiles]
  | cons first ids ih =>
    rw [List.mem_cons,← ih]
    exact AList.mem_insert _

theorem tiles_ofMap {c : Config} {ids : List Int} (all : ∀ id ∈ ids, (1 ≤ id ∧ id ≤ getMaxTerritoryId c) ∧ id % c.xSum ≠ 0) :
    OfMap c (tiles ids) ∧ Inner c (tiles ids) :=
  ⟨fun id mem => (all id (mem_tiles.mp mem)).1,fun id mem => (all id (mem_tiles.mp mem)).2⟩

theorem tile_free (p : Int × Int) : ¬ Contact (territory narrow (tiles [1])) p := by
  have corner {cell : Cell} (mem : territory narrow (tiles [1]) cell = true) : cell = narrow.grid.cellOf 1 := by
    obtain ⟨inside,listed⟩ := territory_iff.mp mem
    have number := List.mem_singleton.mp (mem_tiles.mp listed)
    rw [← number,Grid.cellOf_number inside.1.1 inside.1.2]
  exact alone_free (fun cell other mem memToo => (corner mem).trans (corner memToo).symm) p

theorem tile_ends : 1 ∈ tiles [1] ∧ ∀ order traversal, ∃ fuel lines, refreshTerritoryLines narrow fuel order traversal (tiles [1]) = .returned lines := by
  obtain ⟨ofMap,inner⟩ := @tiles_ofMap narrow [1] (by decide)
  exact ⟨mem_tiles.mpr (by simp),(outlines_end (by decide) ofMap inner).mpr (open_free (territory_finite _ _) tile_free)⟩

-- Three tiles on a falling diagonal: from a corner of the middle one the loop goes round the
-- contacts on its both sides.
theorem diagonal_endless : ¬ ∀ order traversal, ∃ fuel lines, refreshTerritoryLines narrow fuel order traversal (tiles [3,6,9]) = .returned lines := by
  obtain ⟨ofMap,inner⟩ := @tiles_ofMap narrow [3,6,9] (by decide)
  have loops : ¬ Open (territory narrow (tiles [3,6,9])) (1,1) := by
    intro open_
    have upwards : ReturnsTo (territory narrow (tiles [3,6,9])) (1,1) .up .right := ⟨11,by decide +kernel,by decide +kernel⟩
    have onwards : ReturnsTo (territory narrow (tiles [3,6,9])) (1,1) .right .up := ⟨3,by decide +kernel,by decide +kernel⟩
    obtain ⟨e,chain,free⟩ := open_ .up (by decide +kernel)
    have two : e = .right ∨ e = .up := by
      clear free
      induction chain with
      | single returns => exact .inl (returns.unique upwards)
      | tail _ returns ih =>
        rcases ih with rfl | rfl
        · exact .inr (returns.unique onwards)
        · exact .inl (returns.unique upwards)
    refine free ?_
    rcases two with rfl | rfl
    · exact fun d => by cases d <;> decide +kernel
    · exact fun d => by cases d <;> decide +kernel
  intro returns
  obtain ⟨fuel,lines,returned⟩ := returns .stored (.front (cornerPos narrow (1,1)))
  rw [refresh_unfinished (by decide) ofMap inner loops] at returned
  cases returned

end maps
end OriginGame.GuildTerritoryLogic
