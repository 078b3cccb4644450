import Mathlib.Data.List.InsertIdx

namespace OriginGame.Bisect

inductive Place where
  | found (place : Nat)
  | missing (place : Nat)

-- Halving a list from `first` up to `stop`, which is not part of it. A read outside of the list is none.
def search {α : Type} (position : α → Ordering) (list : List α) (first stop : Nat) : Option Place :=
  if first < stop then do
    let one ← list[(first+stop-1)/2]?
    match position one with
    | .eq => some (.found ((first+stop-1)/2))
    | .lt => search position list ((first+stop-1)/2+1) stop
    | .gt => search position list first ((first+stop-1)/2)
  else some (.missing first)
termination_by stop-first

-- What is below comes first, what is above last.
def Positioned (position : α → Ordering) (list : List α) : Prop :=
  list.Pairwise (fun left right => (position right ≠ .gt → position left = .lt) ∧ (position left ≠ .lt → position right = .gt))

inductive Answers (position : α → Ordering) (list : List α) : Place → Prop where
  | found {place : Nat} {one : α} (there : list[place]? = some one) (same : position one = .eq) : Answers position list (.found place)
  | missing {place : Nat} (inside : place ≤ list.length) (below : ∀ i one, i < place → list[i]? = some one → position one = .lt)
      (above : ∀ i one, place ≤ i → list[i]? = some one → position one = .gt) : Answers position list (.missing place)

section search
variable {α : Type} {position : α → Ordering} {list : List α}

theorem Positioned.below (positioned : Positioned position list) {i j : Nat} {left right : α} (before : i < j)
    (here : list[i]? = some left) (there : list[j]? = some right) (low : position right ≠ .gt) : position left = .lt := by
  obtain ⟨i_lt,rfl⟩ := List.getElem?_eq_some_iff.mp here
  obtain ⟨j_lt,rfl⟩ := List.getElem?_eq_some_iff.mp there
  exact (List.pairwise_iff_getElem.mp positioned i j i_lt j_lt before).1 low

theorem Positioned.above (positioned : Positioned position list) {i j : Nat} {left right : α} (before : i < j)
    (here : list[i]? = some left) (there : list[j]? = some right) (high : position left ≠ .lt) : position right = .gt := by
  obtain ⟨i_lt,rfl⟩ := List.getElem?_eq_some_iff.mp here
  obtain ⟨j_lt,rfl⟩ := List.getElem?_eq_some_iff.mp there
  exact (List.pairwise_iff_getElem.mp positioned i j i_lt j_lt before).2 high

theorem search_spec (positioned : Positioned position list) {first stop : Nat} (order : first ≤ stop) (bound : stop ≤ list.length)
    (below : ∀ i one, i < first → list[i]? = some one → position one = .lt)
    (above : ∀ i one, stop ≤ i → list[i]? = some one → position one = .gt) :
    ∃ place, search position list first stop = some place ∧ Answers position list place := by
  induction size : stop-first using Nat.strongRecOn generalizing first stop with
  | ind size ih =>
    rw [search]
    split
    next inside =>
      obtain ⟨one,here⟩ : ∃ one, list[(first+stop-1)/2]? = some one := ⟨_,List.getElem?_eq_getElem (by omega)⟩
      rw [here]
      simp only [Option.bind_eq_bind,Option.bind_some]
      cases compared : position one with
      | eq => exact ⟨_,rfl,.found here compared⟩
      | lt =>
        refine ih _ (by omega) (by omega) bound (fun i other before there => ?_) above rfl
        by_cases same : i = (first+stop-1)/2
        · subst same
          cases here.symm.trans there
          exact compared
        · exact positioned.below (by omega) there here (by rw [compared]; decide)
      | gt =>
        refine ih _ (by omega) (by omega) (by omega) below (fun i other beyond there => ?_) rfl
        by_cases same : i = (first+stop-1)/2
        · subst same
          cases here.symm.trans there
          exact compared
        · exact positioned.above (by omega) here there (by rw [compared]; decide)
    next ended =>
      have same : stop = first := by omega
      subst same
      exact ⟨_,rfl,.missing bound below above⟩

theorem search_answers (positioned : Positioned position list) :
    ∃ place, search position list 0 list.length = some place ∧ Answers position list place := by
  refine search_spec positioned (Nat.zero_le _) (Nat.le_refl _) (fun i one impossible => absurd impossible (Nat.not_lt_zero i)) (fun i one beyond there => ?_)
  have inside := (List.getElem?_eq_some_iff.mp there).1
  omega

-- What is put in at the place that was found keeps the order.
theorem pairwise_insertIdx {before : α → α → Prop} {one : α} (pairwise : list.Pairwise before) {place : Nat}
    (below : ∀ i other, i < place → list[i]? = some other → before other one) (above : ∀ i other, place ≤ i → list[i]? = some other → before one other) :
    (list.insertIdx place one).Pairwise before := by
  induction list generalizing place with
  | nil => cases place <;> simp
  | cons head rest ih =>
    have both := List.pairwise_cons.mp pairwise
    cases place with
    | zero =>
      refine List.pairwise_cons.mpr ⟨fun other there => ?_,pairwise⟩
      obtain ⟨i,here⟩ := List.mem_iff_getElem?.mp there
      exact above i other (Nat.zero_le i) here
    | succ place =>
      rw [List.insertIdx_succ_cons]
      refine List.pairwise_cons.mpr ⟨fun other there => ?_,?_⟩
      · rcases List.eq_or_mem_of_mem_insertIdx there with rfl | old
        · exact below 0 head (Nat.succ_pos _) rfl
        · exact both.1 other old
      · apply ih both.2
        · exact fun i other low here => below (i+1) other (Nat.succ_lt_succ low) here
        · exact fun i other high here => above (i+1) other (Nat.succ_le_succ high) here

end search
end OriginGame.Bisect
