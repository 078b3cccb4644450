import OriginGame.Grid
import Mathlib.Dynamics.PeriodicPts.Lemmas
import Mathlib.Data.Set.Finite.Lattice
import Mathlib.Data.Set.Finite.Range
import Mathlib.Data.Fintype.Defs
import Mathlib.Logic.Relation
import Mathlib.Tactic.Linarith

namespace OriginGame

inductive Direction where
  | left
  | up
  | right
  | down
  deriving DecidableEq, Repr

namespace Direction

instance : Fintype Direction := ⟨{left,up,right,down},fun d => by cases d <;> decide⟩

def clockwise : Direction → Direction
  | left => up
  | up => right
  | right => down
  | down => left

def counter : Direction → Direction
  | left => down
  | up => left
  | right => up
  | down => right

def opposite : Direction → Direction
  | left => right
  | up => down
  | right => left
  | down => up

def step (d : Direction) (p : Int × Int) : Int × Int :=
  match d with
  | left => (p.1-1,p.2)
  | up => (p.1,p.2+1)
  | right => (p.1+1,p.2)
  | down => (p.1,p.2-1)

@[simp] theorem opposite_opposite (d : Direction) : d.opposite.opposite = d := by cases d <;> rfl

@[simp] theorem counter_clockwise (d : Direction) : d.counter.clockwise = d := by cases d <;> rfl

@[simp] theorem clockwise_clockwise (d : Direction) : d.clockwise.clockwise = d.opposite := by cases d <;> rfl

@[simp] theorem opposite_clockwise (d : Direction) : d.opposite.clockwise = d.counter := by cases d <;> rfl

theorem step_opposite (d : Direction) (p : Int × Int) : d.opposite.step (d.step p) = p := by
  cases d <;> simp [opposite,step]

theorem step_inj {d e : Direction} {p : Int × Int} (same : d.step p = e.step p) : d = e := by
  cases d <;> cases e <;> simp [step,Prod.ext_iff] at same ⊢ <;> omega

theorem step_ne (d : Direction) (p : Int × Int) : d.step p ≠ p := by
  cases d <;> simp [step,Prod.ext_iff]

-- The directions to go on in, other than back.
theorem cases_opposite (d e : Direction) : e = d.counter ∨ e = d ∨ e = d.clockwise ∨ e = d.opposite := by
  cases d <;> cases e <;> decide

end Direction

-- A step of one unit from a point of the grid.
abbrev Arc := (Int × Int) × Direction

def Arc.head (a : Arc) : Int × Int := a.2.step a.1

def Arc.reverse (a : Arc) : Arc := (a.head,a.2.opposite)

theorem Arc.reverse_head (a : Arc) : a.reverse.head = a.1 := Direction.step_opposite _ _

theorem Arc.reverse_reverse (a : Arc) : a.reverse.reverse = a :=
  Prod.ext a.reverse_head (Direction.opposite_opposite _)

namespace Border

-- The cell on the left hand; a cell is named by its lower left corner.
def leftCell (p : Int × Int) : Direction → Cell
  | .left => (p.1-1,p.2-1)
  | .up => (p.1-1,p.2)
  | .right => (p.1,p.2)
  | .down => (p.1,p.2-1)

def rightCell (p : Int × Int) (d : Direction) : Cell := leftCell p d.clockwise

variable (region : Cell → Bool)

-- The region is on one side only.
def border (a : Arc) : Bool := region (leftCell a.1 a.2) != region (rightCell a.1 a.2)

-- Where two cells touch at a corner alone, all four lines are border.
def Contact (p : Int × Int) : Prop := ∀ d, border region (p,d) = true

def turn (on : Direction → Bool) (d : Direction) : Direction := if on d.counter then d.counter else if on d then d else d.clockwise

-- On along the border, to the left if there is a choice.
def follow (a : Arc) : Arc := (a.head,turn (fun d => border region (a.head,d)) a.2)

-- The same, but not to a certain point.
def avoid (p : Int × Int) (a : Arc) : Option Arc :=
  [a.2.counter,a.2,a.2.clockwise].findSome? (fun d => if border region (a.head,d) ∧ d.step a.head ≠ p then some (a.head,d) else none)

-- The loop of the border that leaves the point by the first direction comes back by the second.
def ReturnsTo (p : Int × Int) (d e : Direction) : Prop :=
  ∃ k, (follow region)^[k] (p,d) = (e.step p,e.opposite) ∧ ∀ j < k, ((follow region)^[j] (p,d)).head ≠ p

variable {region} {p : Int × Int} {a b : Arc} {d e : Direction}

section sides

theorem leftCell_reverse (a : Arc) : leftCell a.reverse.1 a.reverse.2 = rightCell a.1 a.2 := by
  obtain ⟨p,d⟩ := a
  cases d <;> simp [Arc.reverse,Arc.head,Direction.step,Direction.opposite,leftCell,rightCell,Direction.clockwise]

theorem rightCell_reverse (a : Arc) : rightCell a.reverse.1 a.reverse.2 = leftCell a.1 a.2 := by
  rw [← leftCell_reverse,Arc.reverse_reverse]

theorem border_reverse (a : Arc) : border region a.reverse = border region a := by
  unfold border
  rw [leftCell_reverse,rightCell_reverse,bne_comm]

-- At the end of an arc its left cell is the one to the left of a turn to the left.
theorem leftCell_head (a : Arc) : leftCell a.head a.2.counter = leftCell a.1 a.2 := by
  obtain ⟨p,d⟩ := a
  cases d <;> simp [Arc.head,Direction.step,leftCell,Direction.counter]

theorem border_counter (d : Direction) : border region (p,d.counter) = (region (leftCell p d.counter) != region (leftCell p d)) := by
  unfold border rightCell
  rw [Direction.counter_clockwise]

theorem border_clockwise (d : Direction) :
    border region (p,d.clockwise) = (region (leftCell p d.clockwise) != region (leftCell p d.opposite)) := by
  unfold border rightCell
  rw [Direction.clockwise_clockwise]

theorem border_opposite (d : Direction) :
    border region (p,d.opposite) = (region (leftCell p d.opposite) != region (leftCell p d.counter)) := by
  unfold border rightCell
  rw [Direction.opposite_clockwise]

theorem border_straight (d : Direction) : border region (p,d) = (region (leftCell p d) != region (leftCell p d.clockwise)) := rfl

-- Of the four lines at a point an even number are border.
theorem border_parity (d : Direction) : (border region (p,d.counter) ^^ border region (p,d)) =
    (border region (p,d.clockwise) ^^ border region (p,d.opposite)) := by
  rw [border_counter,border_straight,border_clockwise,border_opposite]
  cases region (leftCell p d.counter) <;> cases region (leftCell p d) <;> cases region (leftCell p d.clockwise) <;>
    cases region (leftCell p d.opposite) <;> rfl

theorem contact_iff (d : Direction) : Contact region p ↔ border region (p,d.counter) = true ∧ border region (p,d) = true ∧
    border region (p,d.clockwise) = true ∧ border region (p,d.opposite) = true := by
  constructor
  · exact fun contact => ⟨contact _,contact _,contact _,contact _⟩
  · rintro ⟨left,straight,right,back⟩ e
    rcases d.cases_opposite e with rfl | rfl | rfl | rfl
    · exact left
    · exact straight
    · exact right
    · exact back

end sides

section loops

-- It never turns back.
theorem turn_ne_opposite (on : Direction → Bool) (d : Direction) : turn on d ≠ d.opposite := by
  unfold turn
  split
  · cases d <;> simp [Direction.counter,Direction.opposite]
  · split <;> cases d <;> simp [Direction.clockwise,Direction.opposite]

-- In each pair of directions one of the two would have turned where the other came from.
theorem turn_inj {on : Direction → Bool} (back : on d.opposite = true) (backToo : on e.opposite = true) (same : turn on d = turn on e) : d = e := by
  unfold turn at same
  cases d <;> cases e <;> simp only [Direction.counter,Direction.clockwise,Direction.opposite] at back backToo same <;> grind

theorem back_border (on : border region a = true) : border region (a.head,a.2.opposite) = true := by
  rw [← on,← border_reverse a]
  rfl

theorem follow_border (on : border region a = true) : border region (follow region a) = true := by
  have parity := @border_parity region a.head a.2
  rw [back_border on] at parity
  unfold follow turn
  dsimp only
  split
  next left => exact left
  next left =>
    split
    next straight => exact straight
    next straight =>
      rw [Bool.not_eq_true] at left straight
      rw [left,straight] at parity
      simpa using parity.symm

-- The side the region is on stays the same.
theorem follow_side (a : Arc) : region (leftCell (follow region a).1 (follow region a).2) = region (leftCell a.1 a.2) := by
  have left := @border_counter region a.head a.2
  have straight := @border_straight region a.head a.2
  rw [leftCell_head] at left
  unfold follow turn
  dsimp only
  split
  · rw [leftCell_head]
  next noLeft =>
    rw [Bool.not_eq_true,left,bne_eq_false_iff_eq] at noLeft
    split
    · exact noLeft.symm
    next noStraight =>
      rw [Bool.not_eq_true,straight,bne_eq_false_iff_eq] at noStraight
      exact (noLeft.trans noStraight).symm

theorem follow_inj (on : border region a = true) (onToo : border region b = true) (same : follow region a = follow region b) : a = b := by
  have heads : a.head = b.head := congrArg Prod.fst same
  have backToo := back_border onToo
  have next : turn (fun d => border region (a.head,d)) a.2 = turn (fun d => border region (b.head,d)) b.2 := congrArg Prod.snd same
  rw [← heads] at next backToo
  have directions := turn_inj (back_border on) backToo next
  have sources : a.1 = b.1 := by
    rw [← a.reverse_head,← b.reverse_head]
    unfold Arc.reverse
    rw [heads,directions]
  exact Prod.ext sources directions

theorem orbit_border (on : border region a = true) (n : Nat) : border region ((follow region)^[n] a) = true := by
  induction n with
  | zero => exact on
  | succ n ih =>
    rw [Function.iterate_succ_apply']
    exact follow_border ih

theorem corner_inj (d : Direction) : Function.Injective (leftCell · d) := by
  intro p q same
  cases d <;> simp [leftCell,Prod.ext_iff] at same ⊢ <;> omega

theorem border_finite (finite : {cell | region cell = true}.Finite) : {a | border region a = true}.Finite := by
  have corners (d : Direction) : {p | region (leftCell p d) = true}.Finite := finite.preimage (corner_inj d).injOn
  refine (Set.finite_iUnion (fun d : Direction => Set.finite_iUnion (fun e : Direction => (corners e).image (fun p => ((p,d) : Arc))))).subset ?_
  rintro ⟨p,d⟩ on
  have sides : region (leftCell p d) = true ∨ region (leftCell p d.clockwise) = true := by
    change (region (leftCell p d) != region (leftCell p d.clockwise)) = true at on
    revert on
    cases region (leftCell p d) <;> cases region (leftCell p d.clockwise) <;> simp
  simp only [Set.mem_iUnion]
  rcases sides with left | right
  · exact ⟨d,d,p,left,rfl⟩
  · exact ⟨d,d.clockwise,p,right,rfl⟩

-- Following is one to one and there is only so much border, so every loop closes.
theorem returns_exists (finite : {cell | region cell = true}.Finite) (on : border region (p,d) = true) : ∃ e, ReturnsTo region p d e := by
  have := (border_finite finite).to_subtype
  let along : {a | border region a = true} → {a | border region a = true} := fun a => ⟨follow region a.1,follow_border a.2⟩
  have inj : Function.Injective along := fun a b same => Subtype.ext (follow_inj a.2 b.2 (congrArg Subtype.val same))
  obtain ⟨n,positive,period⟩ := Function.mem_periodicPts.mp (inj.mem_periodicPts ⟨(p,d),on⟩)
  have values (n : Nat) : (along^[n] ⟨(p,d),on⟩).1 = (follow region)^[n] (p,d) := by
    induction n with
    | zero => rfl
    | succ n ih => rw [Function.iterate_succ_apply',Function.iterate_succ_apply',← ih]
  obtain ⟨m,rfl⟩ := Nat.exists_eq_succ_of_ne_zero positive.ne'
  have closed : follow region ((follow region)^[m] (p,d)) = (p,d) := by
    rw [← Function.iterate_succ_apply' (follow region),← values]
    exact congrArg Subtype.val period
  have some_ : ∃ k, ((follow region)^[k] (p,d)).head = p := ⟨m,congrArg Prod.fst closed⟩
  classical
  have back := Nat.find_spec some_
  refine ⟨((follow region)^[Nat.find some_] (p,d)).2.opposite,Nat.find some_,?_,fun j before => Nat.find_min some_ before⟩
  rw [Direction.opposite_opposite]
  refine Prod.ext (Eq.symm ?_) rfl
  have away := Direction.step_opposite ((follow region)^[Nat.find some_] (p,d)).2 ((follow region)^[Nat.find some_] (p,d)).1
  change Direction.step _ ((follow region)^[Nat.find some_] (p,d)).head = _ at away
  rwa [back] at away

theorem ReturnsTo.unique {f : Direction} (one : ReturnsTo region p d e) (two : ReturnsTo region p d f) : e = f := by
  obtain ⟨k,back,away⟩ := one
  obtain ⟨m,backToo,awayToo⟩ := two
  have closes : ((follow region)^[k] (p,d)).head = p := by
    rw [back]
    exact Direction.step_opposite _ _
  have closesToo : ((follow region)^[m] (p,d)).head = p := by
    rw [backToo]
    exact Direction.step_opposite _ _
  have same : k = m := Nat.le_antisymm (Nat.not_lt.mp (fun less => away m less closesToo)) (Nat.not_lt.mp (fun less => awayToo k less closes))
  subst same
  have opposites := congrArg Prod.snd (back.symm.trans backToo)
  rw [← e.opposite_opposite,← f.opposite_opposite]
  exact congrArg _ opposites

end loops

section detours

-- Whether going on from one to the next comes to an end.
inductive Ends {α : Type} (next : α → Option α) : α → Prop where
  | stops {a : α} (last : next a = none) : Ends next a
  | goesOn {a b : α} (one : next a = some b) (later : Ends next b) : Ends next a

theorem Ends.next {α : Type} {next : α → Option α} {a b : α} (one : next a = some b) : Ends next a ↔ Ends next b := by
  refine ⟨fun ends => ?_,.goesOn one⟩
  cases ends with
  | stops last =>
    rw [one] at last
    cases last
  | goesOn other later =>
    rw [one] at other
    cases other
    exact later

-- What is passed until the end.
inductive Trail {α : Type} (next : α → Option α) : α → List α → Prop where
  | stops {a : α} (last : next a = none) : Trail next a []
  | goesOn {a b : α} {path : List α} (one : next a = some b) (later : Trail next b path) : Trail next a (b::path)

theorem ends_trail {α : Type} {next : α → Option α} {a : α} : Ends next a ↔ ∃ path, Trail next a path := by
  constructor
  · intro ends
    induction ends with
    | stops last => exact ⟨[],.stops last⟩
    | goesOn one _ ih =>
      obtain ⟨path,trail⟩ := ih
      exact ⟨_,.goesOn one trail⟩
  · rintro ⟨path,trail⟩
    induction trail with
    | stops last => exact .stops last
    | goesOn one _ ih => exact .goesOn one ih

theorem avoid_eq (p : Int × Int) (a : Arc) : avoid region p a =
    if border region (a.head,a.2.counter) ∧ a.2.counter.step a.head ≠ p then some (a.head,a.2.counter)
    else if border region (a.head,a.2) ∧ a.2.step a.head ≠ p then some (a.head,a.2)
    else if border region (a.head,a.2.clockwise) ∧ a.2.clockwise.step a.head ≠ p then some (a.head,a.2.clockwise) else none := by
  unfold avoid
  simp only [List.findSome?_cons,List.findSome?_nil]
  split <;> rename_i one
  · split at one
    next off => rw [if_pos off,one]
    next => cases one
  · split at one
    · cases one
    next off =>
      rw [if_neg off]
      split <;> rename_i two
      · split at two
        next off => rw [if_pos off,two]
        next => cases two
      · split at two
        · cases two
        next off =>
          rw [if_neg off]
          split <;> rename_i three
          · exact three.symm
          · exact three.symm

theorem avoid_some (one : avoid region p a = some b) : border region b = true ∧ b.1 = a.head ∧ b.head ≠ p ∧ b.2 ≠ a.2.opposite := by
  have apart (d : Direction) : d.counter ≠ d.opposite ∧ d ≠ d.opposite ∧ d.clockwise ≠ d.opposite := by cases d <;> decide
  rw [avoid_eq] at one
  split at one
  next fits =>
    cases one
    exact ⟨fits.1,rfl,fits.2,(apart _).1⟩
  next =>
    split at one
    next fits =>
      cases one
      exact ⟨fits.1,rfl,fits.2,(apart _).2.1⟩
    next =>
      split at one
      next fits =>
        cases one
        exact ⟨fits.1,rfl,fits.2,(apart _).2.2⟩
      next => cases one

theorem follow_eq (a : Arc) : follow region a =
    if border region (a.head,a.2.counter) then (a.head,a.2.counter)
    else if border region (a.head,a.2) then (a.head,a.2) else (a.head,a.2.clockwise) := by
  unfold follow turn
  dsimp only
  split
  · rfl
  · split <;> rfl

theorem follow_left (left : border region (a.head,a.2.counter) = true) : follow region a = (a.head,a.2.counter) := by
  rw [follow_eq,if_pos left]

theorem follow_ne_opposite (a : Arc) : (follow region a).2 ≠ a.2.opposite := turn_ne_opposite (fun d => border region (a.head,d)) a.2

-- Off the point nothing changes.
theorem avoid_follow (on : border region a = true) (off : (follow region a).head ≠ p) : avoid region p a = some (follow region a) := by
  have next := follow_border on
  rw [avoid_eq]
  rw [follow_eq] at off next ⊢
  split at off
  next left => rw [if_pos left,if_pos ⟨left,off⟩]
  next left =>
    rw [if_neg left] at next ⊢
    rw [if_neg (fun both => left both.1)]
    split at off
    next straight => rw [if_pos straight,if_pos ⟨straight,off⟩]
    next straight =>
      rw [if_neg straight] at next ⊢
      rw [if_neg (fun both => straight both.1),if_pos ⟨next,off⟩]

-- On the point, with only one way on, this is the end.
theorem avoid_stuck (on : border region a = true) (back : (follow region a).head = p) (alone : ¬ Contact region a.head) :
    avoid region p a = none := by
  have parity := @border_parity region a.head a.2
  rw [back_border on,Bool.xor_true] at parity
  rw [contact_iff a.2,back_border on] at alone
  rw [follow_eq] at back
  rw [avoid_eq]
  split at back
  next left =>
    have straight : border region (a.head,a.2) = false ∧ border region (a.head,a.2.clockwise) = false := by
      revert parity alone
      rw [left]
      cases border region (a.head,a.2) <;> cases border region (a.head,a.2.clockwise) <;> simp
    rw [if_neg (fun both => both.2 back),straight.1,straight.2]
    rfl
  next left =>
    rw [Bool.not_eq_true] at left
    rw [left] at parity ⊢
    split at back
    next straight =>
      rw [straight] at parity
      have right : border region (a.head,a.2.clockwise) = false := by simpa using parity
      rw [if_neg (by rintro ⟨no,_⟩; cases no),if_neg (fun both => both.2 back),right]
      rfl
    next straight =>
      rw [Bool.not_eq_true] at straight
      rw [straight,if_neg (by rintro ⟨no,_⟩; cases no),if_neg (by rintro ⟨no,_⟩; cases no),if_neg (fun both => both.2 back)]

-- At a contact there is a second way on, the one that would have been taken from the point.
theorem avoid_bounce (contact : Contact region a.head) (back : (follow region a).head = p) :
    avoid region p a = some (a.head,a.2) ∧ follow region (p,a.2.counter.opposite) = (a.head,a.2) := by
  have next := follow_left (contact a.2.counter)
  rw [next] at back
  have apart : a.2.step a.head ≠ p := by
    rw [← back]
    intro same
    have directions : a.2 = a.2.counter := Direction.step_inj same
    revert directions
    cases a.2 <;> decide
  refine ⟨?_,?_⟩
  · rw [avoid_eq,if_neg (fun both => both.2 back),if_pos ⟨contact a.2,apart⟩]
  · have head : Arc.head (p,a.2.counter.opposite) = a.head := by
      rw [← back]
      exact Direction.step_opposite _ _
    have counter : a.2.counter.opposite.counter = a.2 := by cases a.2 <;> rfl
    rw [follow_left (a:=(p,a.2.counter.opposite)) (by rw [head]; exact contact _),head]
    exact Prod.ext rfl counter

-- A loop of the border from the point up to where it is about to come back.
structure Loop (region : Cell → Bool) (p : Int × Int) (d e : Direction) (k : Nat) : Prop where
  on : border region (p,d) = true
  back : (follow region)^[k+2] (p,d) = (e.step p,e.opposite)
  away : ∀ j ≤ k+1, ((follow region)^[j] (p,d)).head ≠ p

theorem ReturnsTo.loop (on : border region (p,d) = true) (returns : ReturnsTo region p d e) : ∃ k, Loop region p d e k := by
  obtain ⟨k,back,away⟩ := returns
  have closes : ((follow region)^[k] (p,d)).head = p := by
    rw [back]
    exact Direction.step_opposite _ _
  match k with
  | 0 => exact absurd closes (Direction.step_ne _ _)
  | 1 =>
    have same : (follow region (p,d)).2.step (Arc.head (p,d)) = d.opposite.step (Arc.head (p,d)) :=
      Eq.trans closes (Direction.step_opposite d p).symm
    exact absurd (Direction.step_inj same) (follow_ne_opposite (p,d))
  | k+2 => exact ⟨k,on,back,fun j before => away j (by omega)⟩

namespace Loop
variable {k : Nat}

theorem returns (loop : Loop region p d e k) : ReturnsTo region p d e := ⟨k+2,loop.back,fun j before => loop.away j (by omega)⟩

theorem back_border (loop : Loop region p d e k) : border region (p,e) = true := by
  rw [← border_reverse]
  change border region (e.step p,e.opposite) = true
  rw [← loop.back]
  exact orbit_border loop.on _

theorem last (loop : Loop region p d e k) : (follow region ((follow region)^[k+1] (p,d))) = (e.step p,e.opposite) := by
  rw [← Function.iterate_succ_apply' (follow region)]
  exact loop.back

theorem last_head (loop : Loop region p d e k) : ((follow region)^[k+1] (p,d)).head = e.step p := congrArg Prod.fst loop.last

theorem goesOn (loop : Loop region p d e k) {j : Nat} (before : j ≤ k) :
    avoid region p ((follow region)^[j] (p,d)) = some ((follow region)^[j+1] (p,d)) := by
  rw [Function.iterate_succ_apply']
  refine avoid_follow (orbit_border loop.on j) ?_
  rw [← Function.iterate_succ_apply' (follow region)]
  exact loop.away (j+1) (by omega)

theorem ends_last (loop : Loop region p d e k) {j : Nat} (before : j ≤ k+1) :
    Ends (avoid region p) ((follow region)^[j] (p,d)) ↔ Ends (avoid region p) ((follow region)^[k+1] (p,d)) := by
  induction before using Nat.decreasingInduction with
  | self => rfl
  | of_succ j before ih => exact (Ends.next (loop.goesOn (by omega))).trans ih

theorem stops (loop : Loop region p d e k) (alone : ¬ Contact region (e.step p)) : avoid region p ((follow region)^[k+1] (p,d)) = none := by
  refine avoid_stuck (orbit_border loop.on _) ?_ ?_
  · rw [loop.last]
    exact Direction.step_opposite _ _
  · rw [loop.last_head]
    exact alone

-- From a contact on it is the loop that leaves the point by the other direction.
theorem bounces (loop : Loop region p d e k) (contact : Contact region (e.step p)) :
    avoid region p ((follow region)^[k+1] (p,d)) = some (follow region (p,e)) := by
  have last := loop.last
  rw [← loop.last_head] at contact
  have back : (follow region ((follow region)^[k+1] (p,d))).head = p := by
    rw [last]
    exact Direction.step_opposite _ _
  obtain ⟨one,two⟩ := avoid_bounce contact back
  have direction : e = ((follow region)^[k+1] (p,d)).2.counter.opposite := by
    rw [follow_left (contact _)] at last
    have same := congrArg Prod.snd last
    dsimp only at same
    rw [same,Direction.opposite_opposite]
  rw [one,direction,two]

end Loop

-- Going round the border without the point ends if and only if one of the ways the loops come
-- back by, each taken up again where the one before comes back, is not a contact.
theorem ends_iff (finite : {cell | region cell = true}.Finite) (on : border region (p,d) = true) :
    Ends (avoid region p) (p,d) ↔ ∃ e, Relation.TransGen (ReturnsTo region p) d e ∧ ¬ Contact region (e.step p) := by
  constructor
  · intro ends
    by_contra none_
    push Not at none_
    have never : ∀ a, Ends (avoid region p) a → ∀ d' e k j, Relation.ReflTransGen (ReturnsTo region p) d d' → Loop region p d' e k → j ≤ k+1 →
        a = (follow region)^[j] (p,d') → False := by
      intro a ends
      induction ends with
      | stops last =>
        intro d' e k j chain loop before here
        subst here
        by_cases early : j ≤ k
        · rw [loop.goesOn early] at last
          cases last
        · obtain rfl : j = k+1 := by omega
          rw [loop.bounces (none_ e (Relation.TransGen.tail' chain loop.returns))] at last
          cases last
      | goesOn one later ih =>
        intro d' e k j chain loop before here
        subst here
        by_cases early : j ≤ k
        · rw [loop.goesOn early] at one
          cases one
          exact ih d' e k (j+1) chain loop (by omega) rfl
        · obtain rfl : j = k+1 := by omega
          rw [loop.bounces (none_ e (Relation.TransGen.tail' chain loop.returns))] at one
          cases one
          obtain ⟨f,returns⟩ := returns_exists finite loop.back_border
          obtain ⟨m,next⟩ := returns.loop loop.back_border
          exact ih e f m 1 (chain.tail loop.returns) next (by omega) rfl
    obtain ⟨e,returns⟩ := returns_exists finite on
    obtain ⟨k,loop⟩ := returns.loop on
    exact never _ ends d e k 0 .refl loop (by omega) rfl
  · rintro ⟨e,chain,alone⟩
    have stops (d' : Direction) (onToo : border region (p,d') = true) (returns : ReturnsTo region p d' e) : Ends (avoid region p) (p,d') := by
      obtain ⟨k,loop⟩ := returns.loop onToo
      exact (loop.ends_last (Nat.zero_le _)).mpr (.stops (loop.stops alone))
    induction chain using Relation.TransGen.head_induction_on with
    | single returns => exact stops _ on returns
    | head returns _ ih =>
      obtain ⟨k,loop⟩ := returns.loop on
      refine (loop.ends_last (Nat.zero_le _)).mpr ?_
      rename_i f _
      by_cases contact : Contact region (f.step p)
      · refine .goesOn (loop.bounces contact) ?_
        obtain ⟨g,later⟩ := returns_exists finite loop.back_border
        obtain ⟨m,next⟩ := later.loop loop.back_border
        exact (Ends.next (next.goesOn (Nat.zero_le _))).mp (ih loop.back_border)
      · exact .stops (loop.stops contact)

end detours
end Border
end OriginGame
