import Mathlib.Data.Finset.Card
import Mathlib.Data.Finset.Union
import Mathlib.Logic.Relation
import Mathlib.Order.Monotone.Basic

namespace OriginGame.Reach
variable {α : Type*} [DecidableEq α] (next : α → Finset α)

-- A node is reached from another along steps of `next`.
abbrev Path : α → α → Prop := Relation.ReflTransGen (fun node other => other ∈ next node)

def grow (seen : Finset α) : Finset α := seen ∪ seen.biUnion next

-- What a search has seen after so many rounds.
def search (start : Finset α) (rounds : Nat) : Finset α := (grow next)^[rounds] start

variable {next}

theorem mem_grow {seen : Finset α} : other ∈ grow next seen ↔ other ∈ seen ∨ ∃ node ∈ seen, other ∈ next node := by
  simp only [grow,Finset.mem_union,Finset.mem_biUnion]

theorem subset_grow (seen : Finset α) : seen ⊆ grow next seen := Finset.subset_union_left

theorem search_succ (start : Finset α) (rounds : Nat) : search next start (rounds+1) = grow next (search next start rounds) :=
  Function.iterate_succ_apply' _ _ _

theorem search_monotone (start : Finset α) : Monotone (search next start) := by
  apply monotone_nat_of_le_succ
  intro rounds
  rw [search_succ]
  exact subset_grow _

theorem start_seen (start : Finset α) (rounds : Nat) : start ⊆ search next start rounds := search_monotone start (Nat.zero_le rounds)

theorem search_sound {start : Finset α} (seen : node ∈ search next start rounds) : ∃ source ∈ start, Path next source node := by
  induction rounds generalizing node with
  | zero => exact ⟨node,seen,.refl⟩
  | succ rounds ih =>
    rw [search_succ] at seen
    rcases mem_grow.mp seen with before | ⟨last,before,one⟩
    · exact ih before
    · obtain ⟨source,inside,path⟩ := ih before
      exact ⟨source,inside,path.tail one⟩

section bounded
variable {space start : Finset α} (closed : ∀ node ∈ space, next node ⊆ space) (inside : start ⊆ space)
include closed inside

theorem search_bounded (rounds : Nat) : search next start rounds ⊆ space := by
  induction rounds with
  | zero => exact inside
  | succ rounds ih =>
    intro node seen
    rw [search_succ] at seen
    rcases mem_grow.mp seen with before | ⟨last,before,one⟩
    · exact ih before
    · exact closed last (ih before) one

-- Once a round sees nothing new, no later one does; there are at most as many rounds that do as nodes.
theorem search_complete (enough : space.card ≤ rounds) : search next start (rounds+1) = search next start rounds := by
  have sizes : ∀ n, space.card ≤ n → (search next start n).card = (search next start space.card).card := by
    intro n many
    refine Nat.stabilises_of_monotone (f:=fun m => (search next start m).card) ?_ ?_ ?_ many
    · intro m k order
      exact Finset.card_le_card (search_monotone start order)
    · intro m
      exact Finset.card_le_card (search_bounded closed inside m)
    · intro m same
      have fixed : search next start m = search next start (m+1) :=
        Finset.eq_of_subset_of_card_le (search_monotone start (Nat.le_succ m)) same.ge
      have later : search next start (m+1) = search next start (m+2) := by
        rw [search_succ,search_succ _ (m+1),← fixed]
      exact congrArg Finset.card later
  symm
  apply Finset.eq_of_subset_of_card_le (search_monotone start (Nat.le_succ rounds))
  rw [sizes _ enough,sizes _ (enough.trans (Nat.le_succ rounds))]

theorem mem_search (enough : space.card ≤ rounds) : node ∈ search next start rounds ↔ ∃ source ∈ start, Path next source node := by
  refine ⟨search_sound,?_⟩
  rintro ⟨source,there,path⟩
  induction path with
  | refl => exact start_seen start rounds there
  | tail _ one ih =>
    rw [← search_complete closed inside enough,search_succ]
    exact mem_grow.mpr (.inr ⟨_,ih,one⟩)

end bounded
end OriginGame.Reach
