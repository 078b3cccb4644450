import Mathlib.Logic.Function.Iterate

namespace OriginGame

-- Calls that make calls: the frame on top is worked on and leaves others in its place.
structure WorkStack (Frame State : Type) where
  work : List Frame
  state : State

namespace WorkStack
variable {Frame State : Type} {run : State → Frame → List Frame × State}

def next (run : State → Frame → List Frame × State) (s : WorkStack Frame State) : WorkStack Frame State :=
  match s.work with
  | [] => s
  | frame::rest => ⟨(run s.state frame).1++rest,(run s.state frame).2⟩

theorem next_cons (frame : Frame) (rest : List Frame) (state : State) :
    next run ⟨frame::rest,state⟩ = ⟨(run state frame).1++rest,(run state frame).2⟩ := rfl

-- What holds now and after every step.
def Always (run : State → Frame → List Frame × State) (holds : WorkStack Frame State → Prop) (s : WorkStack Frame State) : Prop :=
  ∀ n, holds ((next run)^[n] s)

theorem Always.now {holds : WorkStack Frame State → Prop} (always : Always run holds s) : holds s := always 0

theorem Always.next {holds : WorkStack Frame State → Prop} (always : Always run holds s) : Always run holds (next run s) :=
  fun n => always (n+1)

theorem always_of {holds : WorkStack Frame State → Prop} (closed : ∀ s, holds s → holds (next run s)) (start : holds s) : Always run holds s := by
  intro n
  induction n generalizing s with
  | zero => exact start
  | succ n ih => exact ih (closed s start)

-- A stack that is empty stays so.
theorem empty_stays (empty : s.work = []) (n : Nat) : (next run)^[n] s = s := by
  have fixed : next run s = s := by
    unfold WorkStack.next
    rw [empty]
  exact Function.iterate_fixed fixed n

-- It is enough to look at the steps before the stack is empty.
theorem always_until {holds : WorkStack Frame State → Prop} {count : Nat} (first : ∀ n < count, holds ((next run)^[n] s))
    (empty : ((next run)^[count] s).work = []) (last : ∀ s : WorkStack Frame State, s.work = [] → holds s) : Always run holds s := by
  intro n
  rcases Nat.lt_or_ge n count with before | after
  · exact first n before
  · obtain ⟨more,rfl⟩ := Nat.exists_eq_add_of_le after
    rw [Nat.add_comm,Function.iterate_add_apply,empty_stays empty]
    exact last _ empty

-- A stack that comes back to where something remains to be done is never empty.
theorem never_empty {again : WorkStack Frame State → Prop} (count : Nat) (positive : 0 < count) (back : ∀ s, again s → again ((next run)^[count] s))
    (busy : ∀ s, again s → s.work ≠ []) (start : again s) (n : Nat) : ((next run)^[n] s).work ≠ [] := by
  intro empty
  have returns (k : Nat) : again ((next run)^[count*k] s) := by
    induction k with
    | zero => exact start
    | succ k ih =>
      rw [Nat.mul_succ,Nat.add_comm,Function.iterate_add_apply]
      exact back _ ih
  have later := returns n
  obtain ⟨more,same⟩ := Nat.exists_eq_add_of_le (Nat.le_mul_of_pos_left n positive)
  rw [same,Nat.add_comm,Function.iterate_add_apply,empty_stays empty] at later
  exact busy _ later empty

-- The frames on top come to an end, whatever is below them.
def Ends (run : State → Frame → List Frame × State) (good : WorkStack Frame State → Prop) (below : List Frame → Prop) (frames : List Frame) : Prop :=
  ∀ rest state, below rest → good ⟨frames++rest,state⟩ → ∃ n after, (next run)^[n] ⟨frames++rest,state⟩ = ⟨rest,after⟩

section ends
variable {good : WorkStack Frame State → Prop} {below under : List Frame → Prop} {frame : Frame} {frames : List Frame}

theorem Ends.nil : Ends run good below [] := fun _ state _ _ => ⟨0,state,rfl⟩

theorem Ends.weaken (ends : Ends run good below frames) (part : ∀ rest, under rest → below rest) : Ends run good under frames :=
  fun rest state here goes => ends rest state (part rest here) goes

-- One after another; what is left of them is below the first.
theorem Ends.cons (closed : ∀ s, good s → good (next run s)) (first : Ends run good under [frame]) (rest : Ends run good below frames)
    (part : ∀ more, below more → under (frames++more)) : Ends run good below (frame::frames) := by
  intro more state here goes
  obtain ⟨n,middle,reached⟩ := first (frames++more) state (part more here) goes
  have between : good ⟨frames++more,middle⟩ := by
    rw [← reached]
    exact always_of closed goes n
  obtain ⟨m,after,finished⟩ := rest more middle here between
  refine ⟨m+n,after,?_⟩
  rw [Function.iterate_add_apply]
  exact (congrArg _ reached).trans finished

-- Frames that end wherever they stand.
theorem Ends.all (closed : ∀ s, good s → good (next run s)) (each : ∀ frame ∈ frames, Ends run good (fun _ => True) [frame]) :
    Ends run good (fun _ => True) frames := by
  induction frames with
  | nil => exact .nil
  | cons frame frames ih =>
    exact .cons closed (each frame List.mem_cons_self) (ih (fun other mem => each other (List.mem_cons_of_mem _ mem))) (fun _ _ => trivial)

-- A frame ends if what it leaves does.
theorem Ends.push (closed : ∀ s, good s → good (next run s))
    (pushed : ∀ rest state, below rest → good ⟨frame::rest,state⟩ → Ends run good below (run state frame).1) : Ends run good below [frame] := by
  intro rest state here goes
  obtain ⟨n,after,finished⟩ := pushed rest state here goes rest (run state frame).2 here (closed _ goes)
  exact ⟨n+1,after,finished⟩

end ends

end WorkStack
end OriginGame
