import Mathlib.Algebra.BigOperators.Group.List.Basic
import Mathlib.Logic.Function.Basic
import Mathlib.Tactic.Ring

namespace OriginGame.Gains
variable {κ : Type*} [DecidableEq κ]

-- What a list of gains adds to one name; names may come more than once.
def total (gains : List (κ × Int)) (name : κ) : Int := ((gains.filter (fun entry => entry.1 = name)).map Prod.snd).sum

@[simp] theorem total_nil (name : κ) : total [] name = 0 := rfl

theorem total_cons (entry : κ × Int) (gains : List (κ × Int)) (name : κ) :
    total (entry::gains) name = (if entry.1 = name then entry.2 else 0)+total gains name := by
  by_cases same : entry.1 = name <;> simp [total,same]

theorem total_append (first second : List (κ × Int)) (name : κ) :
    total (first++second) name = total first name+total second name := by
  simp [total]

theorem total_map_mul (gains : List (κ × Int)) (n : Int) (name : κ) :
    total (gains.map (fun entry => (entry.1,entry.2*n))) name = total gains name*n := by
  induction gains with
  | nil => simp
  | cons entry rest ih =>
    rw [List.map_cons,total_cons,total_cons,ih]
    by_cases same : entry.1 = name <;> simp [same,Int.add_mul]

-- The gains one after the other.
def gainAll (attrs : κ → Int) (gains : List (κ × Int)) : κ → Int :=
  gains.foldl (fun attrs entry => Function.update attrs entry.1 (attrs entry.1+entry.2)) attrs

theorem gainAll_total (attrs : κ → Int) (gains : List (κ × Int)) (name : κ) : gainAll attrs gains name = attrs name+total gains name := by
  induction gains generalizing attrs with
  | nil => simp [gainAll]
  | cons entry rest ih =>
    change gainAll (Function.update attrs entry.1 (attrs entry.1+entry.2)) rest name = _
    rw [ih,total_cons]
    by_cases same : entry.1 = name
    · subst same
      rw [Function.update_self,if_pos rfl,Int.add_assoc]
    · rw [Function.update_of_ne (fun equal => same equal.symm),if_neg same,Int.zero_add]

-- Gains of which each is less by something that depends on its name.
theorem total_map_sub (gains : List (κ × Int)) (less : κ → Int) (name : κ) :
    total (gains.map (fun entry => (entry.1,entry.2-less entry.1))) name =
      total gains name-(gains.filter (fun entry => entry.1 = name)).length*less name := by
  induction gains with
  | nil => simp
  | cons entry rest ih =>
    rw [List.map_cons,total_cons,total_cons,ih]
    by_cases same : entry.1 = name
    · simp only [same,if_true,decide_true,List.filter_cons_of_pos,List.length_cons,Nat.cast_add,Nat.cast_one]
      ring
    · simp only [same,if_false,decide_false,List.filter_cons,Bool.false_eq_true,Int.zero_add]

end OriginGame.Gains
