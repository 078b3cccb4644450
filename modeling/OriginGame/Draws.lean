import Mathlib.Data.List.Perm.Subperm

namespace OriginGame.Draws
variable {α : Type}

-- Elements drawn from a list one after another, each taken out of it. A number d stands
-- for the d-th of the elements that are left, counted round and round.
def thin : Nat → List Nat → List α → List α
  | 0,_,_ => []
  | _+1,_,[] => []
  | more+1,draws,x::rest =>
    let place := draws.headD 0%(rest.length+1)
    (x::rest).get ⟨place,Nat.mod_lt _ (Nat.succ_pos _)⟩::thin more draws.tail ((x::rest).eraseIdx place)

theorem thin_split (more : Nat) (draws : List Nat) (list : List α) :
    (∃ left, (thin more draws list++left).Perm list) ∧ (thin more draws list).length = min more list.length := by
  induction more generalizing draws list with
  | zero => exact ⟨⟨list,.refl _⟩,(Nat.zero_min _).symm⟩
  | succ more ih =>
    cases list with
    | nil => exact ⟨⟨[],.refl _⟩,(Nat.min_zero _).symm⟩
    | cons x rest =>
      have inside : draws.headD 0%(rest.length+1) < (x::rest).length := Nat.mod_lt _ (Nat.succ_pos _)
      obtain ⟨⟨left,parts⟩,size⟩ := ih draws.tail ((x::rest).eraseIdx (draws.headD 0%(rest.length+1)))
      refine ⟨⟨left,?_⟩,?_⟩
      · exact (parts.cons _).trans (List.getElem_cons_eraseIdx_perm inside)
      · rw [List.length_eraseIdx_of_lt inside] at size
        unfold thin
        rw [List.length_cons,size,List.length_cons]
        omega

theorem thin_subperm (more : Nat) (draws : List Nat) (list : List α) : (thin more draws list).Subperm list := by
  obtain ⟨⟨left,parts⟩,_⟩ := thin_split more draws list
  exact (List.sublist_append_left _ left).subperm.trans parts.subperm

theorem thin_length (more : Nat) (draws : List Nat) (list : List α) : (thin more draws list).length = min more list.length :=
  (thin_split more draws list).2

-- What may be drawn first.
theorem thin_reaches {chosen list : List α} (part : chosen.Subperm list) (few : chosen.length ≤ more) :
    ∃ draws rest, thin more draws list = chosen++rest := by
  induction chosen generalizing more list with
  | nil => exact ⟨[],_,rfl⟩
  | cons c chosen ih =>
    obtain ⟨more,rfl⟩ : ∃ before, more = before+1 := Nat.exists_eq_add_one.mpr (Nat.lt_of_lt_of_le (Nat.succ_pos _) few)
    obtain ⟨place,inside,same⟩ := List.getElem_of_mem (part.subset List.mem_cons_self)
    cases list with
    | nil => exact absurd inside (Nat.not_lt_zero _)
    | cons x rest =>
      have smaller : chosen.Subperm ((x::rest).eraseIdx place) := by
        have all : (c::((x::rest).eraseIdx place)).Perm (x::rest) := same ▸ List.getElem_cons_eraseIdx_perm inside
        exact (List.subperm_cons c).mp (part.trans all.symm.subperm)
      obtain ⟨draws,others,drawn⟩ := ih smaller (Nat.le_of_succ_le_succ few)
      refine ⟨place::draws,others,?_⟩
      have first : (place::draws).headD 0%(rest.length+1) = place := Nat.mod_eq_of_lt inside
      unfold thin
      rw [List.tail_cons,List.cons_append]
      refine congrArg₂ _ ?_ ?_
      · rw [←same]
        exact congrArg (x::rest).get (Fin.ext first)
      · rw [first]
        exact drawn

theorem always_only {holds : α → Prop} {list : List α} :
    (∀ draws, ∀ x ∈ thin more draws list, holds x) ↔ (0 < more → ∀ x ∈ list, holds x) := by
  constructor
  · intro always some_ x inside
    obtain ⟨draws,rest,drawn⟩ := thin_reaches (List.singleton_subperm_iff.mpr inside) some_
    exact always draws x (drawn ▸ List.mem_cons_self)
  · intro all draws x among
    cases more with
    | zero => exact absurd among List.not_mem_nil
    | succ more => exact all (Nat.succ_pos _) x ((thin_subperm _ draws list).subset among)

theorem thin_nodup {list : List α} (distinct : list.Nodup) (draws : List Nat) : (thin more draws list).Nodup := by
  obtain ⟨⟨left,parts⟩,_⟩ := thin_split more draws list
  exact (List.nodup_append.mp (parts.nodup_iff.mpr distinct)).1

section counting
variable [DecidableEq α]

-- An element is drawn in any case exactly if there are too few others.
theorem always_drawn {list : List α} (inside : x ∈ list) :
    (∀ draws, x ∈ thin more draws list) ↔ (list.filter (· ≠ x)).length < more := by
  constructor
  · intro always
    by_contra many
    have few : ((list.filter (· ≠ x)).take more).length = more := List.length_take_of_le (Nat.not_lt.mp many)
    have part : ((list.filter (· ≠ x)).take more).Subperm list := ((List.take_sublist _ _).trans List.filter_sublist).subperm
    obtain ⟨draws,rest,drawn⟩ := thin_reaches part (Nat.le_of_eq few)
    have size := thin_length more draws list
    rw [drawn,List.length_append,few] at size
    have none : rest = [] := List.eq_nil_of_length_eq_zero (by omega)
    have among := always draws
    rw [drawn,none,List.append_nil] at among
    have other := (List.mem_filter.mp (List.mem_of_mem_take among)).2
    exact (decide_eq_true_iff.mp other) rfl
  · intro few draws
    by_contra missing
    have part := thin_subperm more draws list
    have others : (thin more draws list).Subperm (list.filter (· ≠ x)) := by
      have kept : (thin more draws list).filter (· ≠ x) = thin more draws list :=
        List.filter_eq_self.mpr (fun y among => decide_eq_true (fun same => missing (same ▸ among)))
      rw [←kept]
      exact part.filter _
    have size := others.length_le
    have whole : (list.filter (· ≠ x)).length < list.length :=
      List.length_filter_lt_length_iff_exists.mpr ⟨x,inside,fun other => (decide_eq_true_iff.mp other) rfl⟩
    rw [thin_length] at size
    omega

-- Two of the same are drawn some time, unless only one is.
theorem always_apart {list : List α} (twice : [x,x].Subperm list) : (∀ draws, (thin more draws list).Nodup) ↔ more ≤ 1 := by
  constructor
  · intro always
    by_contra many
    obtain ⟨draws,rest,drawn⟩ := thin_reaches twice (Nat.not_le.mp many)
    have distinct := always draws
    rw [drawn] at distinct
    exact (List.nodup_cons.mp distinct).1 List.mem_cons_self
  · intro few draws
    have size := thin_length more draws list
    match shape : thin more draws list with
    | [] => exact List.nodup_nil
    | [y] => exact by simp only [List.nodup_cons,List.not_mem_nil,not_false_eq_true,List.nodup_nil,and_self]
    | y::z::rest =>
      rw [shape,List.length_cons,List.length_cons] at size
      omega

end counting
end OriginGame.Draws
