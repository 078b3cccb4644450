import Mathlib.Data.List.Basic

namespace OriginGame.Links

variable {κ : Type} {next other : κ → Option κ} {start middle stop : Option κ} {front back list : List κ} {i : κ}

-- The places passed from start to stop.
def Path (next : κ → Option κ) : Option κ → List κ → Option κ → Prop
  | start,[],stop => start = stop
  | start,i::rest,stop => start = some i ∧ Path next (next i) rest stop

theorem path_append : Path next start (front++back) stop ↔ ∃ middle, Path next start front middle ∧ Path next middle back stop := by
  induction front generalizing start with
  | nil =>
    constructor
    · intro path
      exact ⟨start,rfl,path⟩
    · rintro ⟨_,rfl,path⟩
      exact path
  | cons i rest ih =>
    constructor
    · rintro ⟨first,path⟩
      obtain ⟨middle,before,after⟩ := ih.mp path
      exact ⟨middle,⟨first,before⟩,after⟩
    · rintro ⟨middle,⟨first,before⟩,after⟩
      exact ⟨first,ih.mpr ⟨middle,before,after⟩⟩

-- Only the places on it matter.
theorem Path.congr (path : Path next start list stop) (same : ∀ i ∈ list, other i = next i) : Path other start list stop := by
  induction list generalizing start with
  | nil => exact path
  | cons i rest ih =>
    obtain ⟨first,path⟩ := path
    refine ⟨first,?_⟩
    rw [same i (List.mem_cons_self ..)]
    exact ih path (fun j mem => same j (List.mem_cons_of_mem _ mem))

theorem Path.unique {one two : List κ} (first : Path next start one none) (second : Path next start two none) : one = two := by
  induction one generalizing start two with
  | nil =>
    cases two with
    | nil => rfl
    | cons j rest => exact absurd (first.symm.trans second.1) (by simp)
  | cons i rest ih =>
    cases two with
    | nil => exact absurd (second.symm.trans first.1) (by simp)
    | cons j others =>
      cases first.1.symm.trans second.1
      rw [ih first.2 second.2]

-- A path with an end comes nowhere twice.
theorem Path.nodup (path : Path next start list none) : list.Nodup := by
  induction list generalizing start with
  | nil => exact List.nodup_nil
  | cons i rest ih =>
    refine List.nodup_cons.mpr ⟨?_,ih path.2⟩
    intro again
    obtain ⟨front,back,split⟩ := List.append_of_mem again
    have whole := path.2
    rw [split] at whole
    obtain ⟨_,_,_,shorter⟩ := path_append.mp whole
    have same := congrArg List.length (shorter.unique path.2)
    rw [split,List.length_append,List.length_cons] at same
    omega

-- From any place on a path the rest of it.
theorem Path.rest (path : Path next start (front++i::back) stop) : Path next (some i) (i::back) stop := by
  obtain ⟨_,_,_,after⟩ := path_append.mp path
  exact ⟨rfl,after⟩

theorem Path.head (path : Path next (some i) list none) : ∃ rest, list = i::rest := by
  cases list with
  | nil => cases path
  | cons j rest =>
    cases path.1
    exact ⟨rest,rfl⟩

end OriginGame.Links
