import OriginGame.LuaTable

namespace OriginGame

-- `t[k][i]`, where a row is made when it gets its first entry.
abbrev NestedTable (κ ι ν : Type) := Table κ (Table ι ν)

namespace NestedTable
variable {κ ι ν : Type} [DecidableEq κ] [DecidableEq ι]

def find (t : NestedTable κ ι ν) (k : κ) (i : ι) : Option ν := (t.lookup k).bind (·.lookup i)

def put (t : NestedTable κ ι ν) (k : κ) (i : ι) (v : ν) : NestedTable κ ι ν := t.insert k (((t.lookup k).getD ∅).insert i v)

-- `if t[k] then t[k][i] = nil end`
def drop (t : NestedTable κ ι ν) (k : κ) (i : ι) : NestedTable κ ι ν := t.modify k (·.erase i)

-- `t[k][i].field = ...` for an entry that is there.
def adjust (t : NestedTable κ ι ν) (k : κ) (i : ι) (change : ν → ν) : NestedTable κ ι ν := t.modify k (·.modify i change)

-- `if table.empty( t[k] ) then t[k] = nil end`
def prune (t : NestedTable κ ι ν) (k : κ) : NestedTable κ ι ν := if (t.lookup k).map (·.keys) = some [] then t.erase k else t

theorem find_row {t : NestedTable κ ι ν} {row : Table ι ν} (found : t.lookup k = some row) (i : ι) : find t k i = row.lookup i := by
  rw [find,found,Option.bind_some]

theorem find_none {t : NestedTable κ ι ν} (missing : t.lookup k = none) (i : ι) : find t k i = none := by
  rw [find,missing,Option.bind_none]

theorem find_empty (k : κ) (i : ι) : find (∅ : NestedTable κ ι ν) k i = none := rfl

theorem find_insert (t : NestedTable κ ι ν) (k : κ) (row : Table ι ν) (j : κ) (i : ι) :
    find (t.insert k row) j i = if j = k then row.lookup i else find t j i := by
  split
  · rename_i same
    rw [same]
    exact find_row (AList.lookup_insert _) i
  · rename_i other
    rw [find,AList.lookup_insert_ne other]
    rfl

theorem find_put (t : NestedTable κ ι ν) (k : κ) (i : ι) (v : ν) (j : κ) (h : ι) :
    find (put t k i v) j h = if j = k ∧ h = i then some v else find t j h := by
  rw [put,find_insert]
  by_cases row : j = k
  · subst row
    rw [if_pos rfl]
    by_cases entry : h = i
    · rw [if_pos ⟨rfl,entry⟩,entry]
      exact AList.lookup_insert _
    · rw [if_neg (fun both => entry both.2),AList.lookup_insert_ne entry]
      cases found : t.lookup j with
      | none => exact (find_none found h).symm
      | some row => exact (find_row found h).symm
  · rw [if_neg row,if_neg (fun both => row both.1)]

theorem find_drop (t : NestedTable κ ι ν) (k : κ) (i : ι) (j : κ) (h : ι) :
    find (drop t k i) j h = if j = k ∧ h = i then none else find t j h := by
  rw [find,drop,Table.lookup_modify]
  by_cases row : j = k
  · subst row
    rw [if_pos rfl]
    cases found : t.lookup j with
    | none =>
      rw [find_none found,ite_self]
      rfl
    | some row =>
      rw [Option.map_some,Option.bind_some,find_row found]
      by_cases entry : h = i
      · rw [if_pos ⟨rfl,entry⟩,entry]
        exact AList.lookup_erase _ _
      · rw [if_neg (fun both => entry both.2)]
        exact AList.lookup_erase_ne entry
  · rw [if_neg row,if_neg (fun both => row both.1)]
    rfl

theorem find_adjust (t : NestedTable κ ι ν) (k : κ) (i : ι) (change : ν → ν) (j : κ) (h : ι) :
    find (adjust t k i change) j h = if j = k ∧ h = i then (find t j h).map change else find t j h := by
  rw [find,adjust,Table.lookup_modify]
  by_cases row : j = k
  · subst row
    rw [if_pos rfl]
    cases found : t.lookup j with
    | none =>
      rw [find_none found]
      exact (ite_self _).symm
    | some row =>
      rw [Option.map_some,Option.bind_some,Table.lookup_modify,find_row found]
      by_cases entry : h = i
      · rw [if_pos entry,if_pos ⟨rfl,entry⟩,entry]
      · rw [if_neg entry,if_neg (fun both => entry both.2)]
  · rw [if_neg row,if_neg (fun both => row both.1)]
    rfl

theorem find_prune (t : NestedTable κ ι ν) (k j : κ) (i : ι) : find (prune t k) j i = find t j i := by
  unfold prune
  split
  · rename_i empty
    obtain ⟨row,found,nothing⟩ := Option.map_eq_some_iff.mp empty
    by_cases same : j = k
    · subst same
      have absent : row.lookup i = none := by
        refine AList.lookup_eq_none.mpr (fun mem => ?_)
        rw [AList.mem_keys,nothing] at mem
        cases mem
      rw [find_none (AList.lookup_erase _ _),find_row found,absent]
    · rw [find,AList.lookup_erase_ne same]
      rfl
  · rfl

end NestedTable
end OriginGame
