import OriginGame.LuaArray

namespace OriginGame.LuaArray

section rows
variable {α : Type} {t : LuaArray α} {xs : List α}

-- An array without holes holds a list from 1 on.
structure Row (t : LuaArray α) (xs : List α) : Prop where
  zero : t.lookup 0 = none
  at_ : ∀ k, t.lookup (k+1) = xs[k]?

theorem Row.empty : Row (∅ : LuaArray α) [] := ⟨rfl,fun _ => rfl⟩

theorem Row.found (row : Row t xs) (there : t.lookup k = some v) : ∃ i, k = i+1 ∧ xs[i]? = some v := by
  cases k with
  | zero =>
    rw [row.zero] at there
    cases there
  | succ i => exact ⟨i,rfl,(row.at_ i).symm.trans there⟩

-- Such an array has one border.
theorem Row.length_eq (row : Row t xs) (size : Length α) : size.length t = xs.length := by
  obtain ⟨reached,none⟩ := size.border t
  rw [row.at_] at none
  have above := List.getElem?_eq_none_iff.mp none
  rcases reached with zero | some
  · omega
  · obtain ⟨v,there⟩ := Option.isSome_iff_exists.mp some
    obtain ⟨i,same,held⟩ := row.found there
    have below := (List.getElem?_eq_some_iff.mp held).1
    omega

theorem Row.mem_keys (row : Row t xs) : k ∈ t.keys ↔ 1 ≤ k ∧ k ≤ xs.length := by
  rw [AList.mem_keys.symm]
  constructor
  · intro there
    obtain ⟨v,held⟩ := Table.lookup_of_mem (AList.mem_keys.mpr there)
    obtain ⟨i,rfl,value⟩ := row.found held
    have below := (List.getElem?_eq_some_iff.mp value).1
    omega
  · rintro ⟨positive,inside⟩
    obtain ⟨i,rfl⟩ := Nat.exists_eq_add_of_le' positive
    have held := row.at_ i
    rw [List.getElem?_eq_getElem (by omega)] at held
    exact Table.mem_of_lookup held

theorem Row.keys_length (row : Row t xs) : t.keys.length = xs.length := by
  have same : t.keys.Perm (List.range' 1 xs.length) := by
    refine (List.perm_ext_iff_of_nodup t.keys_nodup List.nodup_range').mpr (fun k => ?_)
    rw [row.mem_keys,List.mem_range'_1]
    omega
  rw [same.length_eq,List.length_range']

theorem Row.insert (row : Row t xs) (size : Length α) (v : α) : Row (LuaArray.insert size t v) (xs++[v]) := by
  unfold LuaArray.insert
  rw [row.length_eq size]
  refine ⟨?_,?_⟩
  · rw [AList.lookup_insert_ne (Nat.succ_ne_zero _).symm]
    exact row.zero
  · intro k
    by_cases last : k = xs.length
    · subst last
      rw [AList.lookup_insert]
      simp
    · rw [AList.lookup_insert_ne (by omega),row.at_]
      rcases Nat.lt_or_gt_of_ne last with below | above
      · rw [List.getElem?_append_left below]
      · rw [List.getElem?_eq_none (by omega),List.getElem?_eq_none (by simp; omega)]

theorem lookup_assign_self (t : LuaArray α) (k : Nat) (held : Option α) : (assign t k held).lookup k = held := by
  cases held with
  | none => exact AList.lookup_erase _ _
  | some v => exact AList.lookup_insert _

-- The places from pos on take what the next ones held, and the last is cleared.
theorem lookup_shift (count pos : Nat) (t : LuaArray α) (j : Nat) : (shift count pos t).lookup j =
    if j < pos then t.lookup j else if j < pos+count then t.lookup (j+1) else if j = pos+count then none else t.lookup j := by
  induction count generalizing pos t with
  | zero =>
    unfold shift
    by_cases same : j = pos
    · subst same
      rw [AList.lookup_erase]
      simp
    · rw [AList.lookup_erase_ne same]
      split
      · rfl
      · rw [if_neg (by omega),if_neg (by omega)]
  | succ count ih =>
    rw [shift,ih]
    rcases Nat.lt_trichotomy j pos with below | same | above
    · rw [if_pos (by omega),if_pos below,lookup_assign_ne (by omega)]
    · subst same
      rw [if_pos (by omega),if_neg (by omega),if_pos (by omega),lookup_assign_self]
    · have last : pos+1+count = pos+(count+1) := by omega
      rw [lookup_assign_ne above.ne',lookup_assign_ne (by omega),if_neg (by omega : ¬j < pos+1),if_neg (by omega : ¬j < pos),last]

theorem Row.remove (row : Row t xs) (size : Length α) {i : Nat} (inside : i < xs.length) :
    ∃ u, LuaArray.remove size t (i+1) = some u ∧ Row u (xs.eraseIdx i) := by
  unfold LuaArray.remove
  rw [row.length_eq size]
  refine ⟨_,if_pos (.inr ⟨by omega,by omega⟩),?_,?_⟩
  · rw [lookup_shift,if_pos (by omega)]
    exact row.zero
  · intro k
    rw [lookup_shift,List.getElem?_eraseIdx]
    by_cases before : k < i
    · rw [if_pos (by omega),if_pos before,row.at_]
    · rw [if_neg (by omega),if_neg before]
      by_cases more : k+1 < i+1+(xs.length-(i+1))
      · rw [if_pos more,row.at_]
      · rw [if_neg more,List.getElem?_eq_none (by omega)]
        split
        · rfl
        · rw [row.at_,List.getElem?_eq_none (by omega)]

-- table.removevalue takes one of the places of the value.
theorem Row.removevalue [DecidableEq α] (row : Row t xs) (order : Order Nat) (size : Length α) (there : t.lookup k = some v) :
    ∃ u i, LuaArray.removevalue order size t v = some u ∧ i < xs.length ∧ Row u (xs.eraseIdx i) := by
  unfold LuaArray.removevalue
  cases found : keyOf order t v with
  | none => exact absurd there (keyOf_none found k)
  | some key =>
    obtain ⟨i,rfl,held⟩ := row.found (keyOf_found found)
    have inside := (List.getElem?_eq_some_iff.mp held).1
    obtain ⟨u,removed,left⟩ := row.remove size inside
    exact ⟨u,i,removed,inside,left⟩

end rows

end OriginGame.LuaArray
