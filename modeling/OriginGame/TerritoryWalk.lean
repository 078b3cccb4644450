import OriginGame.Polyline
import OriginGame.TerritoryBorder

namespace OriginGame.GuildTerritoryLogic
open Border Polyline

section searches
variable {c : Config} {territoryIds : Territories} {start p : Int × Int} {used : Finset (Int × Int)} {w r : Walk} {fuel n : Nat} {a b : Arc}

-- The point is one that the loop may go to from p.
def fits (c : Config) (territoryIds : Territories) (start p : Int × Int) (d : Direction) : Bool :=
  border (territory c territoryIds) (p,d) && decide (d.step p ≠ start)

-- The first of so many directions, each clockwise from the one before.
def look (c : Config) (territoryIds : Territories) (start p : Int × Int) : Nat → Direction → Option Direction
  | 0,_ => none
  | n+1,d => if fits c territoryIds start p d then some d else look c territoryIds start p n d.clockwise

namespace Walk

def along (c : Config) (w : Walk) (b : Arc) : Walk := {w with direction:=b.2}.advance (cornerPos c b.head)

theorem finish_turn (startPos : Pos) (w : Walk) : w.turn.finish startPos = w.finish startPos := rfl

end Walk

theorem blocked_corner {territoryPos : TerritoryPos} (marked : Marked c territoryIds used territoryPos) (start q : Int × Int) :
    blocked territoryPos (cornerPos c start) (cornerPos c q) = true ↔ numAt c territoryIds q = 0 ∨ 4 ≤ numAt c territoryIds q ∨ q = start := by
  unfold blocked
  rw [marked.found q]
  split
  next missing =>
    refine iff_of_true rfl (.inl ?_)
    by_contra there
    rw [if_neg there] at missing
    cases missing
  next useInfo found =>
    split at found
    · cases found
    · rename_i there
      cases found
      rw [Bool.or_eq_true,decide_eq_true_iff,beq_iff_eq,cornerPos_inj]
      exact (or_iff_right there).symm

theorem search_corner (rows : 2 ≤ c.ySum) (inner : Inner c territoryIds) (marked : Marked c territoryIds used w.territoryPos)
    (here : w.pos = cornerPos c p) (there : numAt c territoryIds p ≠ 0) :
    w.search c territoryIds c.xSum (cornerPos c start) = if fits c territoryIds start p w.direction then w.along c (p,w.direction) else w.turn := by
  have off (stays : numAt c territoryIds (w.direction.step p) = 0 ∨ 4 ≤ numAt c territoryIds (w.direction.step p)) :
      border (territory c territoryIds) (p,w.direction) = false := by
    rw [← Bool.not_eq_true,← border_reverse]
    intro on
    have bounds : numAt c territoryIds (w.direction.step p) ≠ 0 ∧ numAt c territoryIds (w.direction.step p) < 4 := numAt_border on
    omega
  unfold Walk.search fits
  rw [here,nextPos_corner]
  by_cases stopped : blocked w.territoryPos (cornerPos c start) (cornerPos c (w.direction.step p)) = true
  · rw [if_pos stopped]
    rcases (blocked_corner marked _ _).mp stopped with none_ | full | begins
    · rw [off (.inl none_)]
      rfl
    · rw [off (.inr full)]
      rfl
    · rw [if_neg]
      simp [begins]
  · rw [if_neg stopped]
    rw [blocked_corner marked] at stopped
    push Not at stopped
    rw [isGuildTerritoryLine_border rows inner there stopped.1,decide_eq_true stopped.2.2,Bool.and_true]
    rfl

theorem walkOn_mono {more : Nat} (enough : fuel ≤ more) (ended : walkOn c territoryIds c.xSum (cornerPos c start) fuel w = some r) :
    walkOn c territoryIds c.xSum (cornerPos c start) more w = some r := by
  induction fuel generalizing w more with
  | zero => cases ended
  | succ fuel ih =>
    obtain ⟨more,rfl⟩ := Nat.exists_eq_add_of_le' (Nat.le_trans (Nat.succ_le_succ (Nat.zero_le _)) enough)
    unfold walkOn at ended ⊢
    dsimp only at ended ⊢
    split at ended
    next stops => rw [if_pos stops,ended]
    next goes => rw [if_neg goes,ih (by omega) ended]

theorem walkOn_search (rows : 2 ≤ c.ySum) (inner : Inner c territoryIds) (marked : Marked c territoryIds used w.territoryPos)
    (here : w.pos = cornerPos c p) (there : numAt c territoryIds p ≠ 0) : walkOn c territoryIds c.xSum (cornerPos c start) (fuel+1) w =
      if fits c territoryIds start p w.direction then walkOn c territoryIds c.xSum (cornerPos c start) fuel (w.along c (p,w.direction))
      else if 3 ≤ w.findDirection then some w.turn else walkOn c territoryIds c.xSum (cornerPos c start) fuel w.turn := by
  rw [walkOn,search_corner rows inner marked here there]
  by_cases found : fits c territoryIds start p w.direction = true
  · simp only [found,if_true]
    exact if_neg (show ¬ 4 ≤ 1 by decide)
  · simp only [found,Bool.false_eq_true,if_false]
    exact if_congr (show 4 ≤ w.findDirection+1 ↔ 3 ≤ w.findDirection by omega) rfl rfl

-- What is left of the four turns of the direction decides.
theorem walkOn_look (rows : 2 ≤ c.ySum) (inner : Inner c territoryIds) (marked : Marked c territoryIds used w.territoryPos)
    (here : w.pos = cornerPos c p) (there : numAt c territoryIds p ≠ 0) (left : w.findDirection+n = 3)
    (ended : walkOn c territoryIds c.xSum (cornerPos c start) fuel w = some r) :
    (look c territoryIds start p (n+1) w.direction = none ∧ Walk.turn^[n+1] w = r) ∨
      ∃ d less, look c territoryIds start p (n+1) w.direction = some d ∧ less < fuel ∧
        walkOn c territoryIds c.xSum (cornerPos c start) less (w.along c (p,d)) = some r := by
  induction n generalizing w fuel with
  | zero =>
    cases fuel with
    | zero => cases ended
    | succ fuel =>
      rw [walkOn_search rows inner marked here there] at ended
      unfold look
      split at ended
      next found => exact .inr ⟨_,fuel,if_pos found,Nat.lt_succ_self _,ended⟩
      next missing =>
        rw [if_pos (by omega)] at ended
        exact .inl ⟨if_neg missing,Option.some.inj ended⟩
  | succ n ih =>
    cases fuel with
    | zero => cases ended
    | succ fuel =>
      rw [walkOn_search rows inner marked here there] at ended
      unfold look
      split at ended
      next found => exact .inr ⟨_,fuel,if_pos found,Nat.lt_succ_self _,ended⟩
      next missing =>
        rw [if_neg (by omega)] at ended
        rw [if_neg missing]
        rcases ih (w:=w.turn) marked here (by change w.findDirection+1+n = 3; omega) ended with ⟨nothing,last⟩ | ⟨d,less,found,before,later⟩
        · exact .inl ⟨nothing,last⟩
        · exact .inr ⟨d,less,found,by omega,later⟩

theorem look_walkOn (rows : 2 ≤ c.ySum) (inner : Inner c territoryIds) (marked : Marked c territoryIds used w.territoryPos)
    (here : w.pos = cornerPos c p) (there : numAt c territoryIds p ≠ 0) (left : w.findDirection+n = 3)
    (next : ∀ d, look c territoryIds start p (n+1) w.direction = some d →
      walkOn c territoryIds c.xSum (cornerPos c start) fuel (w.along c (p,d)) = some r)
    (last : look c territoryIds start p (n+1) w.direction = none → Walk.turn^[n+1] w = r) :
    walkOn c territoryIds c.xSum (cornerPos c start) (fuel+(n+1)) w = some r := by
  induction n generalizing w with
  | zero =>
    rw [walkOn_search rows inner marked here there]
    unfold look at next last
    split
    next found => exact next _ (if_pos found)
    next missing =>
      rw [if_pos (by omega)]
      exact congrArg some (last (if_neg missing))
  | succ n ih =>
    rw [← Nat.add_assoc,walkOn_search rows inner marked here there]
    unfold look at next last
    split
    next found => exact walkOn_mono (by omega) (next _ (if_pos found))
    next missing =>
      rw [if_neg missing] at next last
      rw [if_neg (by omega)]
      exact ih (w:=w.turn) marked here (by change w.findDirection+1+n = 3; omega) next last

theorem avoid_look (c : Config) (territoryIds : Territories) (start : Int × Int) (a : Arc) : avoid (territory c territoryIds) start a =
    (look c territoryIds start a.head 3 a.2.counter).map (fun d => (a.head,d)) := by
  rw [avoid_eq]
  simp only [look,fits,Direction.counter_clockwise,Bool.and_eq_true,decide_eq_true_iff]
  split
  · rfl
  · split
    · rfl
    · split <;> rfl

end searches

section trips
variable {c : Config} {territoryIds : Territories} {start p q : Int × Int} {used : Finset (Int × Int)} {w r : Walk} {fuel m : Nat} {a b : Arc}
  {d e : Direction} {legs : Legs} {path : List Arc}

theorem inLine_corner (c : Config) (p q r : Int × Int) : inLine (cornerPos c p) (cornerPos c q) (cornerPos c r) = true ↔
    (p.1 = q.1 ∧ p.1 = r.1) ∨ (p.2 = q.2 ∧ p.2 = r.2) := by
  have positive := (size_int c).ne'
  simp only [inLine,cornerPos,Bool.or_eq_true,Bool.and_eq_true,beq_iff_eq,mul_left_inj' positive]

-- A leg and a step more, not back.
theorem inLine_leg (long : 0 < m) (onward : e ≠ d.opposite) (p : Int × Int) :
    inLine (cornerPos c p) (cornerPos c (walk d m p)) (cornerPos c (e.step (walk d m p))) = decide (d = e) := by
  rw [Bool.eq_iff_iff,inLine_corner,decide_eq_true_iff]
  revert onward
  cases d <;> cases e <;> simp [walk,Direction.step,Direction.opposite] <;> omega

-- The loop has come along the arc and has drawn these legs.
structure Going (c : Config) (territoryIds : Territories) (start : Int × Int) (used : Finset (Int × Int)) (legs : Legs) (a : Arc) (w : Walk) : Prop where
  marked : Marked c territoryIds used w.territoryPos
  pos : w.pos = cornerPos c a.head
  direction : w.direction = a.2.counter
  fresh : w.findDirection = 1
  on : border (territory c territoryIds) a = true
  ends : endOf start legs = a.head
  bent : Bent legs
  leg : ∃ m rest, legs = (a.2,m)::rest ∧ w.lineFirstPos = cornerPos c (endOf start rest)
  second : w.lineSecondPos = some (cornerPos c a.head)
  line : w.line = ((points start legs).map (cornerPos c)).reverse

theorem head_numAt (on : border (territory c territoryIds) a = true) : numAt c territoryIds a.head ≠ 0 := by
  have reverse := on
  rw [← border_reverse] at reverse
  exact (numAt_border (p:=a.head) (d:=a.2.opposite) reverse).1

namespace Going

theorem straightOn (going : Going c territoryIds start used legs a w) (onward : d ≠ a.2.opposite) :
    inLine w.lineFirstPos (cornerPos c a.head) (cornerPos c (d.step a.head)) = decide (a.2 = d) := by
  obtain ⟨m,rest,rfl,first⟩ := going.leg
  have long : 0 < m := going.bent.long (a.2,m) List.mem_cons_self
  rw [first,← going.ends]
  exact inLine_leg long onward _

theorem stretched (going : Going c territoryIds start used legs a w) (d : Direction) :
    (if a.2 = d then w.line.dropLast else w.line) = ((points start (addStep d legs)).tail.map (cornerPos c)).reverse := by
  have drawn := going.line
  obtain ⟨m,rest,rfl,_⟩ := going.leg
  rw [addStep_cons,drawn]
  split
  · rw [List.dropLast_reverse,← List.map_tail]
    rfl
  · rfl

theorem onward (going : Going c territoryIds start used legs a w) (off : d ≠ a.2.opposite) : Bent (addStep d legs) := by
  refine addStep_bent going.bent (fun leg mem => ?_)
  obtain ⟨m,rest,rfl,_⟩ := going.leg
  cases mem
  exact off

theorem along (going : Going c territoryIds start used legs a w) (one : avoid (territory c territoryIds) start a = some b) :
    Going c territoryIds start (insert b.head used) (addStep b.2 legs) b (w.along c b) := by
  obtain ⟨on,source,_,off⟩ := avoid_some one
  have head : b.head = b.2.step a.head := by rw [← source]; rfl
  have goesOn := going.straightOn off
  rw [← head] at goesOn
  have drawn := going.stretched b.2
  have ends := endOf_addStep (s:=start) b.2 legs
  rw [going.ends,← head] at ends
  refine ⟨going.marked.setUse _,rfl,rfl,rfl,on,ends,going.onward off,?_,rfl,?_⟩
  · obtain ⟨m,rest,rfl,first⟩ := going.leg
    simp only [Walk.along,Walk.advance,going.second,goesOn,decide_eq_true_eq]
    rw [addStep_cons]
    by_cases same : a.2 = b.2
    · rw [if_pos same,if_pos same]
      exact ⟨_,_,by rw [same],first⟩
    · rw [if_neg same,if_neg same]
      exact ⟨_,_,rfl,congrArg (cornerPos c) going.ends.symm⟩
  · obtain ⟨m,rest,grown⟩ := head_addStep b.2 legs
    simp only [Walk.along,Walk.advance,going.second,goesOn,decide_eq_true_eq]
    rw [drawn]
    rw [grown] at ends ⊢
    rw [points,ends,List.tail_cons,List.map_cons,List.reverse_cons]

theorem trail (going : Going c territoryIds start used legs a w) (trail : Trail (avoid (territory c territoryIds) start) a path) :
    ∃ last legs', Going c territoryIds start (used ∪ (path.map Arc.head).toFinset) legs' last (path.foldl (Walk.along c) w) ∧
      avoid (territory c territoryIds) start last = none ∧ arcs start legs' = arcs start legs++path ∧ (a::path).getLast? = some last := by
  induction trail generalizing w used legs with
  | stops last =>
    refine ⟨_,legs,?_,last,(List.append_nil _).symm,rfl⟩
    rw [List.map_nil,List.toFinset_nil,Finset.union_empty]
    exact going
  | goesOn one later ih =>
    rename_i a b path
    obtain ⟨last,legs',arrived,stops,drawn,ended⟩ := ih (going.along one)
    refine ⟨last,legs',?_,stops,?_,ended⟩
    · rw [List.map_cons,List.toFinset_cons,Finset.union_insert,← Finset.insert_union]
      exact arrived
    · have here : (endOf start legs,b.2) = b := Prod.ext (going.ends.trans (avoid_some one).2.1.symm) rfl
      rw [drawn,arcs_addStep,here,List.append_assoc]
      rfl

theorem walkOn_trail (rows : 2 ≤ c.ySum) (inner : Inner c territoryIds) (going : Going c territoryIds start used legs a w)
    (ended : walkOn c territoryIds c.xSum (cornerPos c start) fuel w = some r) :
    ∃ path, Trail (avoid (territory c territoryIds) start) a path ∧ r = Walk.turn^[3] (path.foldl (Walk.along c) w) := by
  induction fuel using Nat.strong_induction_on generalizing a w used legs with
  | _ fuel ih =>
    have looked := walkOn_look (n:=2) rows inner going.marked going.pos (head_numAt going.on) (by rw [going.fresh]) ended
    have next := avoid_look c territoryIds start a
    rw [going.direction] at looked
    rcases looked with ⟨nothing,last⟩ | ⟨d,less,found,before,later⟩
    · rw [nothing] at next
      exact ⟨[],.stops next,last.symm⟩
    · rw [found] at next
      obtain ⟨path,trail,result⟩ := ih less before (going.along next) later
      exact ⟨_,.goesOn next trail,result⟩

theorem trail_walkOn (rows : 2 ≤ c.ySum) (inner : Inner c territoryIds) (going : Going c territoryIds start used legs a w)
    (trail : Trail (avoid (territory c territoryIds) start) a path) :
    walkOn c territoryIds c.xSum (cornerPos c start) (3*path.length+3) w = some (Walk.turn^[3] (path.foldl (Walk.along c) w)) := by
  induction trail generalizing w used legs with
  | stops last =>
    rw [avoid_look,Option.map_eq_none_iff] at last
    refine look_walkOn (n:=2) rows inner going.marked going.pos (head_numAt going.on) (by rw [going.fresh]) ?_ (fun _ => rfl)
    intro d found
    rw [going.direction,last] at found
    cases found
  | goesOn one later ih =>
    rename_i a b path
    refine look_walkOn (n:=2) rows inner going.marked going.pos (head_numAt going.on) (by rw [going.fresh]) ?_ ?_
    · intro d found
      rw [going.direction] at found
      have next := avoid_look c territoryIds start a
      rw [one,found] at next
      cases next
      exact ih (going.along one)
    · intro nothing
      rw [going.direction] at nothing
      rw [avoid_look,nothing] at one
      cases one

-- At the end the border leads back to the start.
theorem closes (going : Going c territoryIds start used legs a w) (stops : avoid (territory c territoryIds) start a = none) :
    (follow (territory c territoryIds) a).head = start := by
  by_contra off
  rw [avoid_follow going.on off] at stops
  cases stops

end Going

-- The line with the way back, without the start at its end.
def closedLine (c : Config) (start : Int × Int) (d : Direction) (legs : Legs) : List Pos :=
  ((points start (addStep d legs)).tail.map (cornerPos c)).reverse

-- The first point is dropped in the middle of a side.
def trimmed : List Pos → List Pos
  | first::second::rest => if inLine first second (rest.getLast?.getD second) then second::rest else first::second::rest
  | line => line

theorem closedLine_length (c : Config) (start : Int × Int) (d : Direction) (legs : Legs) :
    (closedLine c start d legs).length = (addStep d legs).length := by
  rw [closedLine,List.length_reverse,List.length_map,List.length_tail,points_length,Nat.add_sub_cancel]

theorem trimmed_length (line : List Pos) : line.length ≤ (trimmed line).length+1 := by
  unfold trimmed
  split
  · split <;> simp
  · exact Nat.le_succ _

theorem Going.closed_length (going : Going c territoryIds start used legs a w) (stops : avoid (territory c territoryIds) start a = none) :
    4 ≤ (closedLine c start (follow (territory c territoryIds) a).2 legs).length := by
  have off := @follow_ne_opposite (territory c territoryIds) a
  obtain ⟨m,rest,grown⟩ := head_addStep (follow (territory c territoryIds) a).2 legs
  rw [closedLine_length]
  refine Polyline.closed_length (s:=start) (going.onward off) (by rw [grown]; exact List.cons_ne_nil _ _) ?_
  rw [endOf_addStep,going.ends]
  exact going.closes stops

theorem Going.finish (going : Going c territoryIds start used legs a w) (stops : avoid (territory c territoryIds) start a = none) :
    w.finish (cornerPos c start) = some (trimmed (closedLine c start (follow (territory c territoryIds) a).2 legs)) := by
  have off := @follow_ne_opposite (territory c territoryIds) a
  have back : (follow (territory c territoryIds) a).2.step a.head = start := going.closes stops
  have goesOn := going.straightOn off
  rw [back] at goesOn
  have long := going.closed_length stops
  unfold Walk.finish
  simp only [going.second,goesOn,decide_eq_true_eq]
  rw [going.stretched]
  change (match closedLine c start (follow (territory c territoryIds) a).2 legs with
    | first::second::rest => some (if inLine first second (rest.getLast?.getD second) then second::rest else
        closedLine c start (follow (territory c territoryIds) a).2 legs)
    | _ => none) = _
  cases line : closedLine c start (follow (territory c territoryIds) a).2 legs with
  | nil => rw [line] at long; exact absurd long (by decide)
  | cons first others =>
    cases others with
    | nil => rw [line] at long; exact absurd long (by simp)
    | cons second rest => rfl

-- The first way along the border, as the loop looks for it.
def firstDirection (region : Cell → Bool) (p : Int × Int) : Option Direction :=
  [Direction.left,.up,.right,.down].find? (fun d => border region (p,d))

theorem first_look (c : Config) (territoryIds : Territories) (start : Int × Int) :
    look c territoryIds start start 4 .left = firstDirection (territory c territoryIds) start := by
  have free (d : Direction) : fits c territoryIds start start d = border (territory c territoryIds) (start,d) := by
    unfold fits
    rw [decide_eq_true (Direction.step_ne d start),Bool.and_true]
  simp only [look,free,firstDirection,List.find?_cons,List.find?_nil,Direction.clockwise]
  cases border (territory c territoryIds) (start,.left) <;> cases border (territory c territoryIds) (start,.up) <;>
    cases border (territory c territoryIds) (start,.right) <;> cases border (territory c territoryIds) (start,.down) <;> rfl

theorem first_border {region : Cell → Bool} (first : firstDirection region p = some d) : border region (p,d) = true :=
  @List.find?_some Direction (fun d => border region (p,d)) d _ first

theorem first_exists (there : numAt c territoryIds p ≠ 0) (partly : numAt c territoryIds p < 4) :
    ∃ d, firstDirection (territory c territoryIds) p = some d := by
  obtain ⟨d,on⟩ := border_numAt there partly
  refine Option.isSome_iff_exists.mp (List.find?_isSome.mpr ⟨d,?_,on⟩)
  cases d <;> simp

section begins
variable {territoryPos : TerritoryPos}

theorem begins_going (marked : Marked c territoryIds used territoryPos) (on : border (territory c territoryIds) (start,d) = true) :
    Going c territoryIds start (insert (d.step start) (insert start used)) [(d,1)] (start,d)
      ((Walk.begins territoryPos (cornerPos c start)).along c (start,d)) := by
  refine ⟨(marked.setUse start).setUse _,rfl,rfl,rfl,on,walk_one d start,⟨by simp,List.isChain_singleton _⟩,⟨1,[],rfl,rfl⟩,rfl,?_⟩
  change [cornerPos c start]++[cornerPos c (d.step start)] = [cornerPos c start,cornerPos c (walk d 1 start)]
  rw [walk_one]
  rfl

theorem walkOn_begins (rows : 2 ≤ c.ySum) (inner : Inner c territoryIds) (marked : Marked c territoryIds used territoryPos)
    (there : numAt c territoryIds start ≠ 0) (first : firstDirection (territory c territoryIds) start = some d)
    (ended : walkOn c territoryIds c.xSum (cornerPos c start) fuel (Walk.begins territoryPos (cornerPos c start)) = some r) :
    ∃ path, Trail (avoid (territory c territoryIds) start) (start,d) path ∧
      r = Walk.turn^[3] (path.foldl (Walk.along c) ((Walk.begins territoryPos (cornerPos c start)).along c (start,d))) := by
  rw [← first_look] at first
  rcases walkOn_look (n:=3) rows inner (marked.setUse start) rfl there rfl ended with ⟨nothing,_⟩ | ⟨e,less,found,_,later⟩
  · cases nothing.symm.trans first
  · cases found.symm.trans first
    rw [first_look] at first
    exact (begins_going marked (first_border first)).walkOn_trail rows inner later

theorem begins_walkOn (rows : 2 ≤ c.ySum) (inner : Inner c territoryIds) (marked : Marked c territoryIds used territoryPos)
    (there : numAt c territoryIds start ≠ 0) (first : firstDirection (territory c territoryIds) start = some d)
    (trail : Trail (avoid (territory c territoryIds) start) (start,d) path) :
    walkOn c territoryIds c.xSum (cornerPos c start) (3*path.length+7) (Walk.begins territoryPos (cornerPos c start)) =
      some (Walk.turn^[3] (path.foldl (Walk.along c) ((Walk.begins territoryPos (cornerPos c start)).along c (start,d)))) := by
  have going := begins_going marked (first_border first)
  rw [← first_look] at first
  refine look_walkOn (n:=3) rows inner (marked.setUse start) rfl there rfl ?_ ?_
  · intro e found
    cases found.symm.trans first
    exact going.trail_walkOn rows inner trail
  · intro nothing
    cases nothing.symm.trans first

end begins
end trips
end OriginGame.GuildTerritoryLogic
