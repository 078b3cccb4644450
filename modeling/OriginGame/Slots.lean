import Mathlib.Data.List.Basic
import Mathlib.Data.List.Nodup

namespace OriginGame

-- The places of a list from which entries are taken out one by one, until it is put
-- together again.
abbrev Slots (α : Type) := List (Option α)

namespace Slots
variable {α κ : Type}

def find (slots : Slots α) (place : Nat) : Option α := slots[place]?.join

def full (list : List α) : Slots α := list.map some

def present (slots : Slots α) : List α := slots.filterMap id

def compact (slots : Slots α) : Slots α := full (present slots)

def clearAll (slots : Slots α) (places : List Nat) : Slots α := places.foldl (fun slots place => slots.set place none) slots

theorem find_cons_zero (entry : Option α) (rest : Slots α) : find (entry::rest) 0 = entry := by
  cases entry <;> rfl

theorem find_cons_succ (entry : Option α) (rest : Slots α) (place : Nat) : find (entry::rest) (place+1) = find rest place := rfl

theorem find_full (list : List α) (place : Nat) : find (full list) place = list[place]? := by
  unfold find full
  rw [List.getElem?_map]
  cases list[place]? <;> rfl

theorem find_clear (slots : Slots α) (place : Nat) : find (slots.set place none) place = none := by
  unfold find
  rw [List.getElem?_set_self']
  cases slots[place]? <;> rfl

theorem find_clear_other (slots : Slots α) (differ : place ≠ other) : find (slots.set place none) other = find slots other := by
  unfold find
  rw [List.getElem?_set_ne differ]

theorem find_clear_none (slots : Slots α) (empty : find slots other = none) : find (slots.set place none) other = none := by
  by_cases same : place = other
  · rw [same]
    exact find_clear slots other
  · rw [find_clear_other slots same]
    exact empty

theorem find_clear_some (there : find (slots.set place none) other = some (x : α)) : find slots other = some x := by
  by_cases same : place = other
  · rw [same,find_clear] at there
    cases there
  · rwa [find_clear_other slots same] at there

theorem present_full (list : List α) : present (full list) = list := by
  unfold present full
  rw [List.filterMap_map]
  exact List.filterMap_some

theorem present_cons_none (rest : Slots α) : present (none::rest) = present rest := rfl

theorem present_cons_some (x : α) (rest : Slots α) : present (some x::rest) = x::present rest := rfl

theorem mem_present {slots : Slots α} : x ∈ present slots ↔ ∃ place, find slots place = some x := by
  unfold present find
  rw [List.mem_filterMap]
  constructor
  · rintro ⟨entry,inside,same⟩
    obtain ⟨place,there⟩ := List.mem_iff_getElem?.mp inside
    exact ⟨place,by rw [there]; exact same⟩
  · rintro ⟨place,there⟩
    exact ⟨some x,List.mem_of_getElem? (Option.join_eq_some_iff.mp there),rfl⟩

section places
variable (key : α → κ)

-- Putting together never moves an entry up.
def Lower (before after : Slots α) : Prop :=
  ∀ place k, (find after place).map key = some k → ∃ old, place ≤ old ∧ (find before old).map key = some k

-- It moves down what stood from `hole` on.
def Below (hole : Nat) (before after : Slots α) : Prop :=
  ∀ place k, (find after place).map key = some k →
    ∃ old, place ≤ old ∧ (find before old).map key = some k ∧ (hole ≤ old → place < old)

variable {key}

theorem Lower.refl (slots : Slots α) : Lower key slots slots := fun place _ there => ⟨place,Nat.le_refl _,there⟩

theorem Lower.trans (first : Lower key before middle) (second : Lower key middle after) : Lower key before after := by
  intro place k there
  obtain ⟨mid,upward,there⟩ := second place k there
  obtain ⟨old,further,there⟩ := first mid k there
  exact ⟨old,Nat.le_trans upward further,there⟩

theorem Lower.of_eq (same : ∀ place, (find after place).map key = (find before place).map key) : Lower key before after :=
  fun place _ there => ⟨place,Nat.le_refl _,by rw [←same]; exact there⟩

theorem Lower.clear (slots : Slots α) (place : Nat) : Lower key slots (slots.set place none) := by
  intro other k there
  obtain ⟨x,found,same⟩ := Option.map_eq_some_iff.mp there
  exact ⟨other,Nat.le_refl _,by rw [find_clear_some found]; exact congrArg some same⟩

theorem Below.lower (below : Below key hole before after) : Lower key before after := by
  intro place k there
  obtain ⟨old,upward,found,_⟩ := below place k there
  exact ⟨old,upward,found⟩

theorem Below.trans_lower (below : Below key hole before middle) (lower : Lower key middle after) : Below key hole before after := by
  intro place k there
  obtain ⟨mid,upward,there⟩ := lower place k there
  obtain ⟨old,further,there,strict⟩ := below mid k there
  exact ⟨old,Nat.le_trans upward further,there,fun behind => Nat.lt_of_le_of_lt upward (strict behind)⟩

theorem Lower.below (lower : Lower key before middle) (below : Below key hole middle after) : Below key hole before after := by
  intro place k there
  obtain ⟨mid,upward,there,strict⟩ := below place k there
  obtain ⟨old,further,there⟩ := lower mid k there
  refine ⟨old,Nat.le_trans upward further,there,fun behind => ?_⟩
  by_cases near : hole ≤ mid
  · exact Nat.lt_of_lt_of_le (strict near) further
  · omega

theorem compact_find {slots : Slots α} (there : find (compact slots) place = some x) :
    ∃ old, place ≤ old ∧ find slots old = some x ∧ ∀ hole, find slots hole = none → hole ≤ old → place < old := by
  unfold compact at there
  induction slots generalizing place with
  | nil => rw [find_full] at there; cases there
  | cons entry rest ih =>
    cases entry with
    | none =>
      rw [present_cons_none] at there
      obtain ⟨old,upward,found,_⟩ := ih there
      exact ⟨old+1,by omega,found,fun _ _ _ => by omega⟩
    | some y =>
      rw [present_cons_some] at there
      cases place with
      | zero =>
        refine ⟨0,Nat.le_refl _,there,fun hole empty behind => ?_⟩
        obtain rfl : hole = 0 := Nat.le_zero.mp behind
        cases empty
      | succ place =>
        obtain ⟨old,upward,found,strict⟩ := ih there
        refine ⟨old+1,by omega,found,fun hole empty behind => ?_⟩
        cases hole with
        | zero => cases empty
        | succ hole => exact Nat.succ_lt_succ (strict hole empty (Nat.le_of_succ_le_succ behind))

theorem Below.compact {slots : Slots α} (empty : find slots hole = none) : Below key hole slots (compact slots) := by
  intro place k there
  obtain ⟨x,found,same⟩ := Option.map_eq_some_iff.mp there
  obtain ⟨old,upward,found,strict⟩ := compact_find found
  exact ⟨old,upward,by rw [found]; exact congrArg some same,strict hole empty⟩

theorem Lower.compact (slots : Slots α) : Lower key slots (Slots.compact slots) := by
  intro place k there
  obtain ⟨x,found,same⟩ := Option.map_eq_some_iff.mp there
  obtain ⟨old,upward,found,_⟩ := compact_find found
  exact ⟨old,upward,by rw [found]; exact congrArg some same⟩

end places

-- The entry of a place is the only one with its key.
theorem present_clear {slots : Slots α} {key : α → κ} [DecidableEq κ] (distinct : ((present slots).map key).Nodup)
    (there : find slots place = some x) :
    present (slots.set place none) = (present slots).filter (fun y => key y ≠ key x) := by
  induction slots generalizing place with
  | nil => cases there
  | cons entry rest ih =>
    cases place with
    | zero =>
      rw [find_cons_zero] at there
      subst there
      rw [present_cons_some,List.map_cons,List.nodup_cons] at distinct
      rw [List.set_cons_zero,present_cons_none,present_cons_some,List.filter_cons_of_neg (by simp),List.filter_eq_self.mpr]
      intro y inside
      exact decide_eq_true (fun same => distinct.1 (same ▸ List.mem_map_of_mem inside))
    | succ place =>
      rw [find_cons_succ] at there
      rw [List.set_cons_succ]
      cases entry with
      | none => exact ih distinct there
      | some y =>
        rw [present_cons_some,List.map_cons,List.nodup_cons] at distinct
        have apart : key y ≠ key x := fun same => distinct.1 (same ▸ List.mem_map_of_mem (mem_present.mpr ⟨place,there⟩))
        rw [present_cons_some,present_cons_some,List.filter_cons_of_pos (by simpa using apart),ih distinct.2 there]

theorem present_clearAll {slots : Slots α} {key : α → κ} [DecidableEq κ] {entries : List (Nat × α)}
    (distinct : ((present slots).map key).Nodup) (apart : (entries.map Prod.fst).Nodup)
    (there : ∀ entry ∈ entries, find slots entry.1 = some entry.2) :
    present (clearAll slots (entries.map Prod.fst)) = (present slots).filter (fun y => key y ∉ entries.map (fun entry => key entry.2)) := by
  induction entries generalizing slots with
  | nil => simp [clearAll]
  | cons entry rest ih =>
    rw [List.map_cons,List.nodup_cons] at apart
    have cleared := present_clear distinct (there entry List.mem_cons_self)
    have still : ((present (slots.set entry.1 none)).map key).Nodup := by
      rw [cleared]
      exact distinct.sublist (List.filter_sublist.map _)
    have later : ∀ other ∈ rest, find (slots.set entry.1 none) other.1 = some other.2 := by
      intro other inside
      have differ : entry.1 ≠ other.1 := fun same => apart.1 (by rw [same]; exact List.mem_map_of_mem inside)
      rw [find_clear_other slots differ]
      exact there other (List.mem_cons_of_mem _ inside)
    have both := ih still apart.2 later
    rw [cleared,List.filter_filter] at both
    refine both.trans (List.filter_congr (fun y _ => ?_))
    rw [←Bool.decide_and]
    refine decide_eq_decide.mpr ⟨fun out inside => ?_,fun out => ⟨fun inside => ?_,fun same => ?_⟩⟩
    · exact (List.mem_cons.mp inside).elim out.2 out.1
    · exact out (List.mem_cons_of_mem _ inside)
    · exact out (same ▸ List.mem_cons_self)

end Slots
end OriginGame
