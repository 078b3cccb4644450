import OriginGame.LuaTable

namespace OriginGame

-- An array that may have holes: the entries under 1, 2, ... that are not nil.
abbrev LuaArray (α : Type) := Table Nat α

namespace LuaArray
variable {α : Type}

def Border (t : LuaArray α) (n : Nat) : Prop := (n = 0 ∨ (t.lookup n).isSome) ∧ t.lookup (n+1) = none

-- With holes `#t` may be any border, and Lua leaves open which.
structure Length (α : Type) where
  length : LuaArray α → Nat
  border : ∀ t, Border t (length t)

namespace Length

def upTo (t : LuaArray α) : Nat → Nat → Nat
  | 0,n => n
  | fuel+1,n => if (t.lookup (n+1)).isSome then upTo t fuel (n+1) else n

theorem upTo_border {t : LuaArray α} {fuel : Nat} (reached : n = 0 ∨ (t.lookup n).isSome) (enough : ∀ k ∈ t.keys, k ≤ n+fuel) :
    Border t (upTo t fuel n) := by
  induction fuel generalizing n with
  | zero =>
    refine ⟨reached,AList.lookup_eq_none.mpr (fun there => ?_)⟩
    have below : n+1 ≤ n+0 := enough (n+1) (AList.mem_keys.mp there)
    omega
  | succ fuel ih =>
    unfold upTo
    split
    next more =>
      refine ih (.inr more) (fun k there => ?_)
      have below := enough k there
      omega
    next hole => exact ⟨reached,Option.not_isSome_iff_eq_none.mp hole⟩

theorem le_foldr_max {keys : List Nat} (there : k ∈ keys) : k ≤ keys.foldr max 0 := by
  induction keys with
  | nil => cases there
  | cons key rest ih =>
    rw [List.foldr_cons]
    rcases List.mem_cons.mp there with rfl | later
    · exact Nat.le_max_left _ _
    · exact (ih later).trans (Nat.le_max_right _ _)

-- The first border there is.
def first : Length α where
  length t := upTo t (t.keys.foldr max 0) 0
  border t := upTo_border (.inl rfl) (fun k there => (le_foldr_max there).trans (Nat.le_add_left _ _))

end Length

-- `t[k] = v` where v may be nil.
def assign (t : LuaArray α) (k : Nat) (v : Option α) : LuaArray α := v.elim (t.erase k) (t.insert k)

def insert (size : Length α) (t : LuaArray α) (v : α) : LuaArray α := AList.insert (size.length t+1) v t

-- `t[pos] = t[pos + 1]` count times, and then `t[pos] = nil`.
def shift : Nat → Nat → LuaArray α → LuaArray α
  | 0,pos,t => t.erase pos
  | count+1,pos,t => shift count (pos+1) (assign t pos (t.lookup (pos+1)))

theorem lookup_assign_ne {t : LuaArray α} (other : j ≠ k) (held : Option α) : (assign t k held).lookup j = t.lookup j := by
  cases held with
  | none => exact AList.lookup_erase_ne other
  | some w => exact AList.lookup_insert_ne other

-- table.remove, which raises at a position that is out of bounds.
def remove (size : Length α) (t : LuaArray α) (k : Nat) : Option (LuaArray α) :=
  let n := size.length t
  if k = n ∨ (1 ≤ k ∧ k ≤ n+1) then some (shift (n-k) k t) else none

section values
variable [DecidableEq α] {t : LuaArray α}

-- The first key in the order of the traversal that holds the value.
def keyOf (order : Order Nat) (t : LuaArray α) (v : α) : Option Nat := (order.visit t.keys).find? (fun k => t.lookup k = some v)

def removevalue (order : Order Nat) (size : Length α) (t : LuaArray α) (v : α) : Option (LuaArray α) :=
  match keyOf order t v with
  | none => some t
  | some k => remove size t k

def exist (t : LuaArray α) (v : α) : Bool := t.keys.any (fun k => t.lookup k = some v)

theorem exist_iff : exist t v = true ↔ ∃ k, t.lookup k = some v := by
  unfold exist
  rw [List.any_eq_true]
  constructor
  · rintro ⟨k,_,found⟩
    exact ⟨k,of_decide_eq_true found⟩
  · rintro ⟨k,found⟩
    exact ⟨k,AList.mem_keys.mp (Table.mem_of_lookup found),decide_eq_true found⟩

-- One if the value is the one looked for.
def hit (v : α) (held : Option α) : Nat := if held = some v then 1 else 0

-- How often a value stands in the array.
def occurs (v : α) (t : LuaArray α) : Nat := Table.sumKeyed (fun _ held => hit v (some held)) t

@[simp] theorem hit_none (v : α) : hit v none = 0 := rfl

@[simp] theorem hit_self (v : α) : hit v (some v) = 1 := if_pos rfl

theorem hit_ne {v held : α} (other : held ≠ v) : hit v (some held) = 0 := if_neg (fun same => other (Option.some.inj same))

theorem occurs_split (v : α) (t : LuaArray α) (k : Nat) : occurs v t = hit v (t.lookup k)+occurs v (t.erase k) := by
  unfold occurs
  rw [Table.sumKeyed_split _ t k]
  cases t.lookup k <;> rfl

theorem occurs_put (v : α) (t : LuaArray α) (k : Nat) (held : α) :
    occurs v (AList.insert k held t) = hit v (some held)+occurs v (t.erase k) := Table.sumKeyed_insert _ t k held

theorem occurs_assign (v : α) (t : LuaArray α) (k : Nat) (held : Option α) :
    occurs v (assign t k held) = hit v held+occurs v (t.erase k) := by
  cases held with
  | none => exact (Nat.zero_add _).symm
  | some w => exact occurs_put v t k w

theorem occurs_of_found (found : t.lookup k = some v) : 0 < occurs v t := by
  rw [occurs_split v t k,found,hit_self]
  exact Nat.add_pos_left Nat.one_pos _

theorem occurs_of_absent (absent : ∀ k, t.lookup k ≠ some v) : occurs v t = 0 := by
  unfold occurs Table.sumKeyed
  refine List.sum_eq_zero (List.forall_mem_map.mpr (fun e mem => hit_ne (fun same => ?_)))
  rw [← same] at absent
  exact absent e.1 (AList.mem_lookup_iff.mpr mem)

theorem occurs_pos : 0 < occurs v t ↔ ∃ k, t.lookup k = some v := by
  constructor
  · intro positive
    by_contra absent
    exact absurd (occurs_of_absent (fun k found => absent ⟨k,found⟩)) positive.ne'
  · rintro ⟨_,found⟩
    exact occurs_of_found found

-- A value that stands there once stands in one place.
theorem occurs_once (once : occurs v t ≤ 1) (first : t.lookup j = some v) (second : t.lookup k = some v) : j = k := by
  by_contra other
  rw [occurs_split v t j,first,hit_self] at once
  have again : (t.erase j).lookup k = some v := by rwa [AList.lookup_erase_ne (fun same => other same.symm)]
  have more := occurs_of_found again
  omega

theorem occurs_keepValues (keep : α → Bool) (stays : keep v = true) (t : LuaArray α) :
    occurs v (Table.keepValues keep t) = occurs v t := by
  obtain ⟨entries,distinct⟩ := t
  unfold occurs Table.sumKeyed Table.keepValues Table.keepKeyed
  dsimp only
  clear distinct
  induction entries with
  | nil => rfl
  | cons e rest ih =>
    rw [List.filter_cons,List.map_cons,List.sum_cons]
    split
    · rw [List.map_cons,List.sum_cons,ih]
    next gone =>
      have other : e.2 ≠ v := fun same => gone ((congrArg keep same).trans stays)
      rw [ih,hit_ne other,Nat.zero_add]

theorem occurs_keepValues_le (keep : α → Bool) (v : α) (t : LuaArray α) : occurs v (Table.keepValues keep t) ≤ occurs v t := by
  refine Table.sumKeyed_mono (fun k held there => ⟨?_,Nat.le_refl _⟩)
  rw [Table.lookup_keepValues] at there
  exact (Option.mem_filter_iff.mp there).1

-- `table.insert` takes a place that was free.
theorem occurs_insert (size : Length α) (v : α) (t : LuaArray α) (held : α) :
    occurs v (insert size t held) = hit v (some held)+occurs v t := by
  have free := (size.border t).2
  rw [insert,occurs_put,occurs_split v t (size.length t+1),free,hit_none,Nat.zero_add]

-- What stood at pos is gone, the rest has moved up.
theorem occurs_shift (v : α) (count pos : Nat) (t : LuaArray α) :
    hit v (t.lookup pos)+occurs v (shift count pos t) = occurs v t := by
  induction count generalizing pos t with
  | zero => exact (occurs_split v t pos).symm
  | succ count ih =>
    have moved := ih (pos+1) (assign t pos (t.lookup (pos+1)))
    rw [lookup_assign_ne (Nat.succ_ne_self pos),occurs_assign] at moved
    rw [shift,occurs_split v t pos,Nat.add_left_cancel moved]

theorem occurs_remove (removed : remove size t k = some u) (v : α) : hit v (t.lookup k)+occurs v u = occurs v t := by
  rw [remove,Option.ite_none_right_eq_some] at removed
  rw [← Option.some.inj removed.2]
  exact occurs_shift v _ k t

theorem keyOf_found (found : keyOf order t v = some k) : t.lookup k = some v := by
  have test := List.find?_some (show (order.visit t.keys).find? (fun k => t.lookup k = some v) = some k from found)
  exact of_decide_eq_true test

theorem keyOf_none {order : Order Nat} (missing : keyOf order t v = none) (k : Nat) : t.lookup k ≠ some v := by
  intro found
  have there : k ∈ order.visit t.keys := Table.visit_of_found found
  exact List.find?_eq_none.mp missing k there (decide_eq_true found)

theorem occurs_removevalue (removed : removevalue order size t v = some u) (w : α) : occurs w u = occurs w t-hit w (some v) := by
  unfold removevalue at removed
  split at removed
  next missing =>
    cases removed
    by_cases same : w = v
    · rw [same,occurs_of_absent (keyOf_none missing)]
      exact (Nat.zero_sub _).symm
    · rw [hit_ne (fun back => same back.symm),Nat.sub_zero]
  next k found =>
    have taken := occurs_remove removed w
    rw [keyOf_found found] at taken
    omega

end values

end LuaArray
end OriginGame
