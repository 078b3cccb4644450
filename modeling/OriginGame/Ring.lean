import Mathlib.Data.List.Basic
import Mathlib.Data.Nat.ModEq

namespace OriginGame.Ring

def next (size cell : Nat) : Nat := if cell+1 ≥ size then 0 else cell+1

-- A queue in a ring of cells: the waiting ones from the head on, around the end. One cell is always left free.
structure Holds (cells : List (Option α)) (head tail : Nat) (waiting : List α) : Prop where
  inside : head < cells.length
  behind : tail = (head+waiting.length)%cells.length
  room : waiting.length < cells.length
  each : ∀ i one, waiting[i]? = some one → cells[(head+i)%cells.length]? = some (some one)

theorem next_mod (inside : cell < size) : next size cell = (cell+1)%size := by
  unfold next
  split
  next last =>
    have : cell+1 = size := by omega
    rw [this,Nat.mod_self]
  next => exact (Nat.mod_eq_of_lt (by omega)).symm

theorem next_lt (inside : cell < size) : next size cell < size := by
  rw [next_mod inside]
  exact Nat.mod_lt _ (by omega)

-- Cells apart by less than the size are apart in the ring.
theorem around_injective {head i j : Nat} (i_lt : i < size) (j_lt : j < size) (same : (head+i)%size = (head+j)%size) : i = j := by
  have shifted : Nat.ModEq size i j := Nat.ModEq.add_left_cancel' head same
  rwa [Nat.ModEq,Nat.mod_eq_of_lt i_lt,Nat.mod_eq_of_lt j_lt] at shifted

theorem mapM_some {f : α → Option β} {g : α → β} {list : List α} (each : ∀ one ∈ list, f one = some (g one)) : list.mapM f = some (list.map g) := by
  induction list with
  | nil => rfl
  | cons one rest ih =>
    have both := List.forall_mem_cons.mp each
    rw [List.mapM_cons,both.1,ih both.2]
    rfl

theorem holds_nil (some_cell : 0 < size) : Holds (List.replicate size (none : Option α)) 0 0 [] := by
  refine ⟨?_,?_,?_,fun _ _ there => (nomatch there)⟩
  · rwa [List.length_replicate]
  · rw [List.length_nil,Nat.zero_mod]
  · rwa [List.length_nil,List.length_replicate]

namespace Holds
variable {α : Type*} {cells : List (Option α)} {head tail : Nat} {waiting : List α} {one : α}

theorem tail_lt (held : Holds cells head tail waiting) : tail < cells.length := by
  rw [held.behind]
  exact Nat.mod_lt _ (by have := held.inside; omega)

theorem length (held : Holds cells head tail waiting) :
    (if head ≤ tail then tail-head else tail+cells.length-head) = waiting.length := by
  have low := held.inside
  have room := held.room
  have tail_eq := held.behind
  by_cases around : head+waiting.length < cells.length
  · rw [Nat.mod_eq_of_lt around] at tail_eq
    split <;> omega
  · rw [Nat.mod_eq_sub_mod (by omega),Nat.mod_eq_of_lt (by omega)] at tail_eq
    split <;> omega

theorem empty_iff (held : Holds cells head tail waiting) : head = tail ↔ waiting = [] := by
  have size := held.length
  have low := held.inside
  rw [← List.length_eq_zero_iff]
  constructor
  · intro same
    rw [if_pos same.le] at size
    omega
  · intro none_left
    split at size <;> omega

theorem first (held : Holds cells head tail (one::waiting)) : cells[head]? = some (some one) := by
  have here := held.each 0 one rfl
  rwa [Nat.add_zero,Nat.mod_eq_of_lt held.inside] at here

theorem pop (held : Holds cells head tail (one::waiting)) : Holds cells (next cells.length head) tail waiting := by
  have room := held.room
  have inside := next_lt held.inside
  have around : ∀ i, (next cells.length head+i)%cells.length = (head+(i+1))%cells.length := by
    intro i
    rw [next_mod held.inside,Nat.mod_add_mod]
    congr 1
    omega
  rw [List.length_cons] at room
  refine ⟨inside,?_,by omega,fun i other there => ?_⟩
  · rw [around]
    exact held.behind
  · rw [around]
    exact held.each (i+1) other there

theorem set_cells (held : Holds cells head tail waiting) (i : Nat) (other : α) (there : (waiting++[one])[i]? = some other) :
    (cells.set tail (some one))[(head+i)%cells.length]? = some (some other) := by
  have room := held.room
  have inside : i < (waiting++[one]).length := (List.getElem?_eq_some_iff.mp there).1
  rw [List.length_append,List.length_singleton] at inside
  rw [held.behind]
  by_cases last : i = waiting.length
  · subst last
    rw [List.getElem?_concat_length] at there
    cases there
    exact List.getElem?_set_self (Nat.mod_lt _ (by omega))
  · rw [List.getElem?_append_left (by omega)] at there
    rw [List.getElem?_set_ne (fun same => last (around_injective (by omega) room same.symm))]
    exact held.each i other there

-- With a cell to spare it stays free.
theorem push (held : Holds cells head tail waiting) (one : α) (room : waiting.length+1 < cells.length) :
    Holds (cells.set tail (some one)) head (next cells.length tail) (waiting++[one]) := by
  refine ⟨?_,?_,?_,fun i other there => ?_⟩
  · rw [List.length_set]
    exact held.inside
  · rw [List.length_set,List.length_append,List.length_singleton,next_mod held.tail_lt,held.behind,Nat.mod_add_mod,Nat.add_assoc]
  · rwa [List.length_set,List.length_append]
  · rw [List.length_set]
    exact held.set_cells i other there

-- Without one the tail comes up with the head.
theorem full_iff (held : Holds cells head tail waiting) : head = next cells.length tail ↔ waiting.length+1 = cells.length := by
  have room := held.room
  have low := held.inside
  rw [next_mod held.tail_lt,held.behind,Nat.mod_add_mod,Nat.add_assoc]
  constructor
  · intro same
    by_contra apart
    have here : (head+0)%cells.length = (head+(waiting.length+1))%cells.length := by
      rw [Nat.add_zero,Nat.mod_eq_of_lt low]
      exact same
    exact absurd (around_injective (by omega) (by omega) here) (by omega)
  · intro full
    rw [full,Nat.add_mod_right,Nat.mod_eq_of_lt low]

-- The full ring, read from the head on, is the queue.
theorem unroll (held : Holds cells head tail waiting) (one : α) (full : waiting.length+1 = cells.length) :
    (List.range cells.length).mapM (fun i => (cells.set tail (some one))[(head+i)%cells.length]?) = some ((waiting++[one]).map some) := by
  have size : (waiting++[one]).length = cells.length := by rwa [List.length_append,List.length_singleton]
  have each : ∀ i ∈ List.range cells.length, (cells.set tail (some one))[(head+i)%cells.length]? = some (waiting++[one])[i]? := by
    intro i inside
    have bound : i < (waiting++[one]).length := by
      rw [size]
      exact List.mem_range.mp inside
    rw [List.getElem?_eq_getElem bound]
    exact held.set_cells i _ (List.getElem?_eq_getElem bound)
  rw [mapM_some each,← size]
  refine congrArg some (List.ext_getElem? (fun i => ?_))
  rw [List.getElem?_map,List.getElem?_map]
  by_cases bound : i < (waiting++[one]).length
  · rw [List.getElem?_range bound,List.getElem?_eq_getElem bound,Option.map_some,Option.map_some,List.getElem?_eq_getElem bound]
  · rw [List.getElem?_eq_none (by rw [List.length_range]; omega),List.getElem?_eq_none (by omega)]
    rfl

end Holds

-- A queue read into the front of a ring with room behind it.
theorem holds_front (waiting : List α) (some_cell : 0 < more) :
    Holds (waiting.map some++List.replicate more none) 0 waiting.length waiting := by
  have size : (waiting.map some++List.replicate more none).length = waiting.length+more := by
    rw [List.length_append,List.length_map,List.length_replicate]
  refine ⟨by omega,?_,by omega,fun i one there => ?_⟩
  · rw [size,Nat.zero_add,Nat.mod_eq_of_lt (by omega)]
  · have inside := (List.getElem?_eq_some_iff.mp there).1
    rw [size,Nat.zero_add,Nat.mod_eq_of_lt (by omega),List.getElem?_append_left (by rwa [List.length_map]),List.getElem?_map,there]
    rfl

end OriginGame.Ring
