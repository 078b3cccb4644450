import OriginGame.Border

namespace OriginGame.Polyline

-- A line of straight legs, each a direction and a number of steps; the last leg comes first.
abbrev Legs := List (Direction × Nat)

variable (s : Int × Int)

def walk (d : Direction) (m : Nat) (p : Int × Int) : Int × Int :=
  match d with
  | .left => (p.1-m,p.2)
  | .up => (p.1,p.2+m)
  | .right => (p.1+m,p.2)
  | .down => (p.1,p.2-m)

def straight (p : Int × Int) (d : Direction) (m : Nat) : List Arc := (List.range m).map (fun k => (walk d k p,d))

def endOf : Legs → Int × Int
  | [] => s
  | leg::legs => walk leg.1 leg.2 (endOf legs)

-- The points of the line, the last one first.
def points : Legs → List (Int × Int)
  | [] => [s]
  | leg::legs => endOf s (leg::legs)::points legs

def arcs : Legs → List Arc
  | [] => []
  | leg::legs => arcs legs++straight (endOf s legs) leg.1 leg.2

-- One step more makes the last leg longer or begins another.
def addStep (d : Direction) : Legs → Legs
  | [] => [(d,1)]
  | (e,m)::legs => if e = d then (e,m+1)::legs else (d,1)::(e,m)::legs

-- Each leg goes somewhere and each but the first turns off.
structure Bent (legs : Legs) : Prop where
  long : ∀ leg ∈ legs, 0 < leg.2
  turns : legs.IsChain (fun later earlier => later.1 ≠ earlier.1 ∧ later.1 ≠ earlier.1.opposite)

variable {s} {d e : Direction} {m : Nat} {p : Int × Int} {legs : Legs}

@[simp] theorem walk_zero (d : Direction) (p : Int × Int) : walk d 0 p = p := by cases d <;> simp [walk]

theorem walk_succ (d : Direction) (m : Nat) (p : Int × Int) : walk d (m+1) p = d.step (walk d m p) := by
  cases d <;> simp only [walk,Direction.step,Prod.mk.injEq,true_and,and_true] <;> omega

theorem walk_one (d : Direction) (p : Int × Int) : walk d 1 p = d.step p := by rw [walk_succ,walk_zero]

theorem walk_add (d : Direction) (m n : Nat) (p : Int × Int) : walk d (m+n) p = walk d n (walk d m p) := by
  cases d <;> simp only [walk,Prod.mk.injEq,true_and,and_true] <;> omega

theorem walk_ne (long : 0 < m) (d : Direction) (p : Int × Int) : walk d m p ≠ p := by
  cases d <;> simp only [walk,ne_eq,Prod.ext_iff] <;> omega

theorem straight_succ (p : Int × Int) (d : Direction) (m : Nat) : straight p d (m+1) = straight p d m++[(walk d m p,d)] := by
  unfold straight
  rw [List.range_succ,List.map_append]
  rfl

theorem straight_cons (p : Int × Int) (d : Direction) (m : Nat) : straight p d (m+1) = (p,d)::straight (d.step p) d m := by
  unfold straight
  rw [List.range_succ_eq_map,List.map_cons,List.map_map,walk_zero]
  refine congrArg (_::·) (List.map_congr_left (fun k _ => ?_))
  dsimp only [Function.comp]
  rw [Nat.succ_eq_one_add,walk_add,walk_one]

theorem straight_add (p : Int × Int) (d : Direction) (m n : Nat) : straight p d (m+n) = straight p d m++straight (walk d m p) d n := by
  induction n with
  | zero => exact (List.append_nil _).symm
  | succ n ih => rw [← Nat.add_assoc,straight_succ,ih,straight_succ,List.append_assoc,walk_add]

theorem addStep_cons (d e : Direction) (m : Nat) (legs : Legs) :
    addStep d ((e,m)::legs) = if e = d then (e,m+1)::legs else (d,1)::(e,m)::legs := rfl

theorem endOf_addStep (d : Direction) (legs : Legs) : endOf s (addStep d legs) = d.step (endOf s legs) := by
  cases legs with
  | nil => exact walk_one d s
  | cons leg legs =>
    obtain ⟨e,m⟩ := leg
    rw [addStep_cons]
    split
    next same =>
      subst same
      exact walk_succ e m _
    next => exact walk_one d _

theorem arcs_addStep (d : Direction) (legs : Legs) : arcs s (addStep d legs) = arcs s legs++[(endOf s legs,d)] := by
  have one (p : Int × Int) : straight p d 1 = [(p,d)] := by rw [straight_succ,walk_zero]; rfl
  cases legs with
  | nil => exact one s
  | cons leg legs =>
    obtain ⟨e,m⟩ := leg
    rw [addStep_cons]
    split
    next same =>
      subst same
      rw [arcs,straight_succ,← List.append_assoc]
      rfl
    next => rw [arcs,one]

theorem addStep_bent (bent : Bent legs) (onward : ∀ leg ∈ legs.head?, d ≠ leg.1.opposite) : Bent (addStep d legs) := by
  cases legs with
  | nil => exact ⟨by simp [addStep],List.isChain_singleton _⟩
  | cons leg legs =>
    obtain ⟨e,m⟩ := leg
    have off := onward (e,m) rfl
    have longer : ∀ leg ∈ legs, 0 < leg.2 := fun leg mem => bent.long leg (List.mem_cons_of_mem _ mem)
    rw [addStep_cons]
    split
    next same =>
      refine ⟨?_,?_⟩
      · intro leg mem
        rcases List.mem_cons.mp mem with rfl | earlier
        · exact Nat.succ_pos m
        · exact longer leg earlier
      · exact (List.isChain_cons.mpr (List.isChain_cons.mp bent.turns))
    next other =>
      refine ⟨?_,List.isChain_cons_cons.mpr ⟨⟨fun same => other same.symm,off⟩,bent.turns⟩⟩
      intro leg mem
      rcases List.mem_cons.mp mem with rfl | earlier
      · exact Nat.one_pos
      · exact bent.long leg earlier

theorem head_addStep (d : Direction) (legs : Legs) : ∃ m rest, addStep d legs = (d,m)::rest := by
  cases legs with
  | nil => exact ⟨_,_,rfl⟩
  | cons leg legs =>
    obtain ⟨e,m⟩ := leg
    rw [addStep_cons]
    split
    next same => exact ⟨_,_,by rw [same]⟩
    next => exact ⟨_,_,rfl⟩

theorem points_length (s : Int × Int) (legs : Legs) : (points s legs).length = legs.length+1 := by
  induction legs with
  | nil => rfl
  | cons leg legs ih => rw [points,List.length_cons,ih,List.length_cons]

-- Fewer than four legs do not come back.
theorem closed_length (bent : Bent legs) (some_ : legs ≠ []) (closed : endOf s legs = s) : 4 ≤ legs.length := by
  match legs with
  | [] => exact absurd rfl some_
  | [(d,m)] => exact absurd closed (walk_ne (bent.long _ List.mem_cons_self) d s)
  | [(d,m),(e,n)] =>
    have second : 0 < m := bent.long (d,m) (by simp)
    have first : 0 < n := bent.long (e,n) (by simp)
    obtain ⟨straight,back⟩ := (List.isChain_cons_cons.mp bent.turns).1
    revert closed straight back
    cases d <;> cases e <;> simp [endOf,walk,Prod.ext_iff,Direction.opposite] <;> omega
  | [(d,m),(e,n),(f,k)] =>
    have second : 0 < n := bent.long (e,n) (by simp)
    obtain ⟨⟨straight,back⟩,earlier⟩ := List.isChain_cons_cons.mp bent.turns
    obtain ⟨straight',back'⟩ := (List.isChain_cons_cons.mp earlier).1
    revert closed straight back straight' back'
    cases d <;> cases e <;> cases f <;> simp [endOf,walk,Prod.ext_iff,Direction.opposite] <;> omega
  | _::_::_::_::_ => simp

-- The legs in their order, each with the point it begins at.
def segments (s : Int × Int) : Legs → List ((Int × Int) × Direction × Nat)
  | [] => []
  | leg::legs => segments s legs++[(endOf s legs,leg)]

def pairs {α : Type} (list : List α) : List (α × α) := list.zip list.tail

theorem pairs_snoc {α : Type} (list : List α) (one two : α) : pairs (list++[one,two]) = pairs (list++[one])++[(one,two)] := by
  induction list with
  | nil => rfl
  | cons first list ih =>
    cases list with
    | nil => rfl
    | cons second list => exact congrArg ((first,second)::·) ih

theorem pairs_map {α β : Type} (f : α → β) (list : List α) : pairs (list.map f) = (pairs list).map (Prod.map f f) := by
  unfold pairs
  rw [← List.map_tail,List.zip_map]

theorem points_reverse (s : Int × Int) (legs : Legs) : ∃ rest, (points s legs).reverse = s::rest := by
  induction legs with
  | nil => exact ⟨[],rfl⟩
  | cons leg legs ih =>
    obtain ⟨rest,first⟩ := ih
    exact ⟨rest++[endOf s (leg::legs)],by rw [points,List.reverse_cons,first]; rfl⟩

theorem points_last (s : Int × Int) (legs : Legs) : ∃ rest, points s legs = endOf s legs::rest := by
  cases legs with
  | nil => exact ⟨[],rfl⟩
  | cons leg legs => exact ⟨_,rfl⟩

def segmentEnds (segment : (Int × Int) × Direction × Nat) : (Int × Int) × (Int × Int) :=
  (segment.1,walk segment.2.1 segment.2.2 segment.1)

theorem pairs_points (s : Int × Int) (legs : Legs) : pairs (points s legs).reverse = (segments s legs).map segmentEnds := by
  induction legs with
  | nil => rfl
  | cons leg legs ih =>
    obtain ⟨rest,last⟩ := points_last s legs
    rw [last,List.reverse_cons] at ih
    rw [points,segments,List.reverse_cons,last,List.reverse_cons,List.append_assoc,List.map_append,← ih]
    exact pairs_snoc _ _ _

theorem arcs_segments (s : Int × Int) (legs : Legs) :
    arcs s legs = (segments s legs).flatMap (fun segment => straight segment.1 segment.2.1 segment.2.2) := by
  induction legs with
  | nil => rfl
  | cons leg legs ih => rw [arcs,segments,List.flatMap_append,← ih,List.flatMap_singleton]

theorem segments_long (bent : Bent legs) {segment : (Int × Int) × Direction × Nat} (mem : segment ∈ segments s legs) : 0 < segment.2.2 := by
  have legs_ : ∃ leg ∈ legs, segment.2 = leg := by
    clear bent
    induction legs with
    | nil => cases mem
    | cons leg legs ih =>
      rcases List.mem_append.mp mem with earlier | last
      · obtain ⟨leg',mem,same⟩ := ih earlier
        exact ⟨leg',List.mem_cons_of_mem _ mem,same⟩
      · rw [List.mem_singleton.mp last]
        exact ⟨leg,List.mem_cons_self,rfl⟩
  obtain ⟨leg,mem,same⟩ := legs_
  rw [same]
  exact bent.long leg mem

theorem segments_first (s : Int × Int) (legs : Legs) (first : Direction × Nat) :
    ∃ rest, segments s (legs++[first]) = (s,first)::rest := by
  induction legs with
  | nil => exact ⟨[],rfl⟩
  | cons leg legs ih =>
    obtain ⟨rest,found⟩ := ih
    exact ⟨rest++[(endOf s (legs++[first]),leg)],by rw [List.cons_append,segments,found]; rfl⟩

end OriginGame.Polyline
