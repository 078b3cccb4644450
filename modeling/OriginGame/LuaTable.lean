import Mathlib.Algebra.BigOperators.Group.Finset.Basic
import Mathlib.Algebra.Order.BigOperators.Group.List
import Mathlib.Algebra.Order.Ring.Int
import Mathlib.Data.List.AList

namespace OriginGame

-- A Lua table is a finite map; assigning nil is erasing.
abbrev Table (κ ν : Type) := AList (fun _ : κ => ν)

-- `pairs` visits every key once. Lua leaves the order open, so a traversal takes
-- the order as an argument and results hold for every one of them.
structure Order (κ : Type) where
  visit : List κ → List κ
  perm : ∀ keys, (visit keys).Perm keys

namespace Order

-- The order in which the table stores its keys.
def stored : Order κ := ⟨id,fun _ => .refl _⟩

-- One key comes before all others.
def front [DecidableEq κ] (k : κ) : Order κ where
  visit keys := if k ∈ keys then k::keys.erase k else keys
  perm keys := by
    split
    next mem => exact (List.perm_cons_erase mem).symm
    next => exact .refl _

-- One key comes after all others.
def back [DecidableEq κ] (k : κ) : Order κ where
  visit keys := if k ∈ keys then keys.erase k ++ [k] else keys
  perm keys := by
    split
    next mem => exact (List.perm_append_singleton k _).trans (List.perm_cons_erase mem).symm
    next => exact .refl _

-- One traversal in the order that was seen.
def seen [DecidableEq κ] {keys visited : List κ} (perm : visited.Perm keys) : Order κ where
  visit list := if list = keys then visited else list
  perm list := by
    split
    next same => exact same ▸ perm
    next => exact .refl _

theorem seen_visit [DecidableEq κ] {keys visited : List κ} (perm : visited.Perm keys) : (seen perm).visit keys = visited := if_pos rfl

theorem mem_visit (order : Order κ) : k ∈ order.visit keys ↔ k ∈ keys := (order.perm keys).mem_iff

theorem nodup_visit (order : Order κ) (distinct : keys.Nodup) : (order.visit keys).Nodup :=
  (order.perm keys).nodup_iff.mpr distinct

theorem sum_visit (order : Order κ) (f : κ → Int) :
    ((order.visit keys).map f).sum = (keys.map f).sum :=
  ((order.perm keys).map f).sum_eq

end Order

-- `table.sort` may leave elements neither of which comes before the other in any order.
structure Sorting (before : α → α → Bool) where
  sort : List α → List α
  perm : ∀ list, (sort list).Perm list
  sorted : ∀ list, (sort list).Pairwise (fun first second => before second first = false)

namespace Table
variable {κ ν : Type} [DecidableEq κ]

-- `t[k].field` with zero for a missing entry.
def amount (t : Table κ ν) (field : ν → Int) (k : κ) : Int := ((t.lookup k).map field).getD 0

@[simp] theorem amount_insert (t : Table κ ν) (field : ν → Int) (k : κ) (v : ν) :
    amount (t.insert k v) field k = field v := by simp [amount]

@[simp] theorem amount_insert_ne (t : Table κ ν) (field : ν → Int) (v : ν) (other : k ≠ j) :
    amount (t.insert j v) field k = amount t field k := by simp [amount,AList.lookup_insert_ne other]

@[simp] theorem amount_erase (t : Table κ ν) (field : ν → Int) (k : κ) :
    amount (t.erase k) field k = 0 := by simp [amount]

@[simp] theorem amount_erase_ne (t : Table κ ν) (field : ν → Int) (other : k ≠ j) :
    amount (t.erase j) field k = amount t field k := by simp [amount,AList.lookup_erase_ne other]

theorem amount_some {t : Table κ ν} (found : t.lookup k = some v) (field : ν → Int) :
    amount t field k = field v := by simp [amount,found]

theorem amount_none {t : Table κ ν} (missing : t.lookup k = none) (field : ν → Int) :
    amount t field k = 0 := by simp [amount,missing]

theorem amount_grown {t : Table κ ν} {field : ν → Int} (grown : field v = amount t field k+number) (j : κ) :
    amount (t.insert k v) field j = amount t field j+if k = j then number else 0 := by
  by_cases same : k = j
  · subst same
    rw [amount_insert,grown,if_pos rfl]
  · rw [amount_insert_ne _ _ _ (Ne.symm same),if_neg same,Int.add_zero]

theorem lookup_no_keys {t : Table κ ν} (empty : t.keys = []) (k : κ) : t.lookup k = none := by
  refine AList.lookup_eq_none.mpr (fun there => ?_)
  have mem : k ∈ t.keys := AList.mem_keys.mp there
  rw [empty] at mem
  cases mem

theorem lookup_only (found : (AList.insert k v ∅ : Table κ ν).lookup j = some w) : j = k ∧ w = v := by
  by_cases same : j = k
  · subst same
    rw [AList.lookup_insert] at found
    exact ⟨rfl,(Option.some.inj found).symm⟩
  · rw [AList.lookup_insert_ne same,AList.lookup_empty] at found
    cases found

theorem found_insert {t : Table κ ν} (found : (t.insert k v).lookup j = some w) : j = k ∧ w = v ∨ j ≠ k ∧ t.lookup j = some w := by
  by_cases same : j = k
  · subst same
    rw [AList.lookup_insert] at found
    exact .inl ⟨rfl,(Option.some.inj found).symm⟩
  · rw [AList.lookup_insert_ne same] at found
    exact .inr ⟨same,found⟩

theorem found_erase {t : Table κ ν} (found : (t.erase k).lookup j = some w) : j ≠ k ∧ t.lookup j = some w := by
  by_cases same : j = k
  · subst same
    rw [AList.lookup_erase] at found
    cases found
  · rw [AList.lookup_erase_ne same] at found
    exact ⟨same,found⟩

theorem mem_of_lookup {t : Table κ ν} (found : t.lookup k = some v) : k ∈ t := AList.lookup_isSome.mp (by rw [found]; rfl)

theorem lookup_of_mem {t : Table κ ν} (there : k ∈ t) : ∃ v, t.lookup k = some v := Option.isSome_iff_exists.mp (AList.lookup_isSome.mpr there)

theorem found_of_visit {order : Order κ} {t : Table κ ν} (visited : k ∈ order.visit t.keys) : ∃ v, t.lookup k = some v :=
  lookup_of_mem (AList.mem_keys.mpr (order.mem_visit.mp visited))

theorem visit_of_found {order : Order κ} {t : Table κ ν} (found : t.lookup k = some v) : k ∈ order.visit t.keys :=
  order.mem_visit.mpr (AList.mem_keys.mp (mem_of_lookup found))

-- A table with the same keys, each value computed from the old entry.
def mapKeyed (change : κ → ν → μ) (t : Table κ ν) : Table κ μ :=
  ⟨t.entries.map (fun e => ⟨e.1,change e.1 e.2⟩),by
    rw [List.NodupKeys,List.keys,List.map_map]; exact t.nodupKeys⟩

@[simp] theorem lookup_mapKeyed (change : κ → ν → μ) (t : Table κ ν) (k : κ) :
    (mapKeyed change t).lookup k = (t.lookup k).map (change k) := by
  obtain ⟨entries,distinct⟩ := t
  simp only [mapKeyed,AList.lookup]
  induction entries with
  | nil => rfl
  | cons e rest ih =>
    obtain ⟨key,value⟩ := e
    by_cases same : k = key
    · subst same
      rw [List.map_cons,List.dlookup_cons_eq,List.dlookup_cons_eq]; rfl
    · have tail := ih (List.nodupKeys_cons.mp distinct).2
      rw [List.map_cons,List.dlookup_cons_ne _ _ same,List.dlookup_cons_ne _ _ same]
      exact tail

-- `for _, v in pairs(t) do` with a body that changes only v.
def mapValues (change : ν → ν) (t : Table κ ν) : Table κ ν := mapKeyed (fun _ => change) t

@[simp] theorem lookup_mapValues (change : ν → ν) (t : Table κ ν) (k : κ) :
    (mapValues change t).lookup k = (t.lookup k).map change := lookup_mapKeyed _ _ _

@[simp] theorem amount_mapValues (change : ν → ν) (t : Table κ ν) (field : ν → Int) (k : κ) :
    amount (mapValues change t) field k = amount t (fun v => field (change v)) k := by
  rw [amount,amount,lookup_mapValues,Option.map_map]
  rfl

-- The entries that pass a check.
def keepKeyed (keep : κ → ν → Bool) (t : Table κ ν) : Table κ ν :=
  ⟨t.entries.filter (fun e => keep e.1 e.2),t.nodupKeys.sublist List.filter_sublist⟩

@[simp] theorem lookup_keepKeyed (keep : κ → ν → Bool) (t : Table κ ν) (k : κ) :
    (keepKeyed keep t).lookup k = (t.lookup k).filter (keep k) := by
  obtain ⟨entries,distinct⟩ := t
  simp only [keepKeyed,AList.lookup]
  induction entries with
  | nil => rfl
  | cons e rest ih =>
    obtain ⟨key,value⟩ := e
    obtain ⟨fresh,apart⟩ := List.nodupKeys_cons.mp distinct
    by_cases same : k = key
    · subst same
      have gone : (rest.filter (fun e => keep e.1 e.2)).dlookup k = none := by
        rw [ih apart,List.dlookup_eq_none.mpr fresh]
        rfl
      cases passes : keep k value with
      | true => simp only [List.filter_cons,passes,if_true,List.dlookup_cons_eq,Option.filter_some]
      | false => simpa only [List.filter_cons,passes,Bool.false_eq_true,if_false,List.dlookup_cons_eq,Option.filter_some] using gone
    · rw [List.dlookup_cons_ne _ _ same,← ih apart,List.filter_cons]
      split
      · exact List.dlookup_cons_ne _ _ same
      · rfl

def keepValues (keep : ν → Bool) (t : Table κ ν) : Table κ ν := keepKeyed (fun _ => keep) t

@[simp] theorem lookup_keepValues (keep : ν → Bool) (t : Table κ ν) (k : κ) :
    (keepValues keep t).lookup k = (t.lookup k).filter keep := lookup_keepKeyed _ _ _

-- `t[k].field = ...` for an entry that is there.
def modify (t : Table κ ν) (k : κ) (change : ν → ν) : Table κ ν := (t.lookup k).elim t (fun v => t.insert k (change v))

theorem lookup_modify (t : Table κ ν) (k j : κ) (change : ν → ν) :
    (modify t k change).lookup j = if j = k then (t.lookup k).map change else t.lookup j := by
  unfold modify
  cases found : t.lookup k with
  | none =>
    by_cases same : j = k
    · subst same
      rw [if_pos rfl]
      exact found
    · rw [if_neg same]
      rfl
  | some v =>
    by_cases same : j = k
    · subst same
      rw [if_pos rfl]
      exact AList.lookup_insert _
    · rw [if_neg same]
      exact AList.lookup_insert_ne same

theorem lookup_modify_self (t : Table κ ν) (k : κ) (change : ν → ν) : (modify t k change).lookup k = (t.lookup k).map change := by
  rw [lookup_modify,if_pos rfl]

theorem lookup_modify_ne (t : Table κ ν) (change : ν → ν) (other : j ≠ k) : (modify t k change).lookup j = t.lookup j := by
  rw [lookup_modify,if_neg other]

-- Entries of another table whose key is not there yet.
def addMissing (t more : Table κ ν) : Table κ ν := more.entries.foldl (fun t e => if e.1 ∈ t then t else t.insert e.1 e.2) t

theorem lookup_foldl_missing (entries : List (Sigma fun _ : κ => ν)) (distinct : entries.NodupKeys) (t : Table κ ν) (k : κ) :
    AList.lookup k (entries.foldl (fun t e => if e.1 ∈ t then t else t.insert e.1 e.2) t) = (t.lookup k).or (entries.dlookup k) := by
  induction entries generalizing t with
  | nil => exact (Option.or_none).symm
  | cons e rest ih =>
    obtain ⟨key,value⟩ := e
    rw [List.foldl_cons,ih (List.nodupKeys_cons.mp distinct).2]
    by_cases same : k = key
    · subst same
      rw [List.dlookup_cons_eq]
      split
      · rename_i there
        obtain ⟨v,found⟩ := lookup_of_mem there
        rw [found,Option.some_or,Option.some_or]
      · rename_i absent
        rw [AList.lookup_insert,AList.lookup_eq_none.mpr absent,Option.some_or,Option.none_or]
    · rw [List.dlookup_cons_ne _ _ same]
      split
      · rfl
      · rw [AList.lookup_insert_ne same]

theorem lookup_addMissing (t more : Table κ ν) (k : κ) : (addMissing t more).lookup k = (t.lookup k).or (more.lookup k) :=
  lookup_foldl_missing more.entries more.nodupKeys t k

-- What a `pairs` loop adds up; the order does not matter.
def sumOver (weigh : ν → Int) (t : Table κ ν) : Int := (t.entries.map (fun e => weigh e.2)).sum

theorem sum_kerase_keyed [AddCommMonoid M] (weigh : κ → ν → M) (entries : List (Sigma fun _ : κ => ν)) (k : κ) :
    (entries.map (fun e => weigh e.1 e.2)).sum =
      ((entries.dlookup k).map (weigh k)).getD 0+((entries.kerase k).map (fun e => weigh e.1 e.2)).sum := by
  induction entries with
  | nil => exact (zero_add 0).symm
  | cons e rest ih =>
    obtain ⟨key,value⟩ := e
    by_cases same : k = key
    · subst same
      have gone : List.kerase k (⟨k,value⟩::rest) = rest := List.kerase_cons_eq rfl
      rw [List.dlookup_cons_eq,gone]
      simp only [List.map_cons,List.sum_cons,Option.map_some,Option.getD_some]
    · rw [List.dlookup_cons_ne _ _ same,List.kerase_cons_ne same]
      simp only [List.map_cons,List.sum_cons,ih]
      exact add_left_comm _ _ _

theorem sum_kerase (weigh : ν → Int) (entries : List (Sigma fun _ : κ => ν)) (k : κ) :
    (entries.map (fun e => weigh e.2)).sum =
      ((entries.dlookup k).map weigh).getD 0+((entries.kerase k).map (fun e => weigh e.2)).sum := sum_kerase_keyed (fun _ => weigh) entries k

theorem sumOver_erase (weigh : ν → Int) (t : Table κ ν) (k : κ) :
    sumOver weigh (t.erase k) = sumOver weigh t-amount t weigh k := by
  have split := sum_kerase weigh t.entries k
  change (t.entries.map (fun e => weigh e.2)).sum = amount t weigh k+sumOver weigh (t.erase k) at split
  unfold sumOver at split ⊢
  omega

theorem sumOver_insert (weigh : ν → Int) (t : Table κ ν) (k : κ) (v : ν) :
    sumOver weigh (t.insert k v) = sumOver weigh t-amount t weigh k+weigh v := by
  have rest := sumOver_erase weigh t k
  unfold sumOver at rest ⊢
  rw [AList.entries_insert,List.map_cons,List.sum_cons]
  change weigh v+((t.erase k).entries.map (fun e => weigh e.2)).sum = _
  omega

-- What a `pairs` loop that never looks at the keys gets to see.
def values (order : Order κ) (t : Table κ ν) : List ν := (order.visit t.keys).filterMap t.lookup

theorem sumOver_pos {weigh : ν → Int} {t : Table κ ν} (positive : 0 < sumOver weigh t) : ∃ k v, t.lookup k = some v ∧ 0 < weigh v := by
  have more : (t.entries.map (fun _ => (0 : Int))).sum < sumOver weigh t := by simpa using positive
  obtain ⟨e,mem,weighs⟩ := List.exists_lt_of_sum_lt _ _ more
  exact ⟨e.1,e.2,AList.mem_lookup_iff.mpr mem,weighs⟩

-- The same with the key at hand.
def sumKeyed (weigh : κ → ν → Nat) (t : Table κ ν) : Nat := (t.entries.map (fun e => weigh e.1 e.2)).sum

-- A `pairs` loop that adds up, after an entry has changed.
theorem sum_insert_keyed [AddCommGroup M] (weigh : κ → ν → M) (t : Table κ ν) (k : κ) (v : ν) :
    ((t.insert k v).entries.map (fun e => weigh e.1 e.2)).sum =
      (t.entries.map (fun e => weigh e.1 e.2)).sum-((t.lookup k).map (weigh k)).getD 0+weigh k v := by
  rw [AList.entries_insert,List.map_cons,List.sum_cons,sum_kerase_keyed weigh t.entries k,add_comm]
  change _ = ((t.lookup k).map (weigh k)).getD 0+_-((t.lookup k).map (weigh k)).getD 0+_
  rw [add_sub_cancel_left]

theorem sumKeyed_split (weigh : κ → ν → Nat) (t : Table κ ν) (k : κ) :
    sumKeyed weigh t = ((t.lookup k).map (weigh k)).getD 0+sumKeyed weigh (t.erase k) := sum_kerase_keyed weigh t.entries k

theorem sumKeyed_insert (weigh : κ → ν → Nat) (t : Table κ ν) (k : κ) (v : ν) :
    sumKeyed weigh (t.insert k v) = weigh k v+sumKeyed weigh (t.erase k) := by
  unfold sumKeyed
  rw [AList.entries_insert,List.map_cons,List.sum_cons]
  rfl

-- Fewer entries, each weighing no more.
theorem sumKeyed_mono {weigh other : κ → ν → Nat} {t u : Table κ ν}
    (part : ∀ k, ∀ v ∈ t.lookup k, v ∈ u.lookup k ∧ weigh k v ≤ other k v) : sumKeyed weigh t ≤ sumKeyed other u := by
  obtain ⟨entries,distinct⟩ := t
  induction entries generalizing u with
  | nil => exact Nat.zero_le _
  | cons e rest ih =>
    obtain ⟨key,value⟩ := e
    obtain ⟨fresh,tail⟩ := List.nodupKeys_cons.mp distinct
    obtain ⟨there,lighter⟩ := part key value (List.dlookup_cons_eq _ _ _)
    have smaller : sumKeyed weigh ⟨rest,tail⟩ ≤ sumKeyed other (u.erase key) := by
      apply ih tail
      intro k v mem
      have differs : k ≠ key := by
        rintro rfl
        exact fresh (List.dlookup_isSome.mp (Option.isSome_iff_exists.mpr ⟨v,mem⟩))
      obtain ⟨inside,weighs⟩ := part k v ((List.dlookup_cons_ne rest ⟨key,value⟩ differs).trans mem)
      rw [AList.lookup_erase_ne differs]
      exact ⟨inside,weighs⟩
    rw [sumKeyed_split other u key,Option.mem_def.mp there]
    change weigh key value+sumKeyed weigh ⟨rest,tail⟩ ≤ other key value+sumKeyed other (u.erase key)
    omega

theorem sumKeyed_erase_le (weigh : κ → ν → Nat) (t : Table κ ν) (k : κ) : sumKeyed weigh (t.erase k) ≤ sumKeyed weigh t := by
  rw [sumKeyed_split weigh t k]
  omega

-- What a `pairs` loop gets to see.
def pairs (order : Order κ) (t : Table κ ν) : List (κ × ν) := (order.visit t.keys).filterMap (fun k => (t.lookup k).map (Prod.mk k))

theorem mem_pairs (order : Order κ) (t : Table κ ν) : (k,v) ∈ pairs order t ↔ t.lookup k = some v := by
  unfold pairs
  rw [List.mem_filterMap]
  constructor
  · rintro ⟨key,_,seen⟩
    obtain ⟨value,found,same⟩ := Option.map_eq_some_iff.mp seen
    obtain ⟨rfl,rfl⟩ := Prod.mk.inj same
    exact found
  · intro found
    refine ⟨k,visit_of_found found,?_⟩
    rw [found,Option.map_some]

theorem pairs_empty (order : Order κ) : pairs order (∅ : Table κ ν) = [] := by
  have visited : order.visit [] = [] := List.perm_nil.mp (order.perm [])
  change (order.visit []).filterMap _ = []
  rw [visited]
  rfl

theorem pairs_perm (order other : Order κ) (t : Table κ ν) : (pairs order t).Perm (pairs other t) :=
  ((order.perm t.keys).trans (other.perm t.keys).symm).filterMap _

theorem sum_pairs (order : Order κ) (t : Table κ ν) (f : κ → ν → Int) :
    ((pairs order t).map (fun e => f e.1 e.2)).sum = ∑ k ∈ t.keys.toFinset, (t.lookup k).elim 0 (f k) := by
  have seen : ∀ keys : List κ,
      ((keys.filterMap (fun k => (t.lookup k).map (Prod.mk k))).map (fun e => f e.1 e.2)).sum = (keys.map (fun k => (t.lookup k).elim 0 (f k))).sum := by
    intro keys
    induction keys with
    | nil => rfl
    | cons k rest ih =>
      rw [List.filterMap_cons,List.map_cons,List.sum_cons,←ih]
      cases t.lookup k with
      | none => exact (zero_add _).symm
      | some v => rfl
  rw [List.sum_toFinset _ t.keys_nodup]
  exact (seen _).trans (order.sum_visit _)

-- `table.insert( t[k], x )`, with an empty list under a new key before it.
def push (t : Table κ (List α)) (k : κ) (x : α) : Table κ (List α) := t.insert k ((t.lookup k).getD []++[x])

-- A list split into one list for each key.
def grouped (key : α → κ) (list : List α) : Table κ (List α) := list.foldl (fun t x => push t (key x) x) ∅

theorem lookup_push (t : Table κ (List α)) (k : κ) (x : α) : (push t k x).lookup k = some ((t.lookup k).getD []++[x]) := AList.lookup_insert t

theorem lookup_push_ne (t : Table κ (List α)) (x : α) (other : j ≠ k) : (push t k x).lookup j = t.lookup j := AList.lookup_insert_ne other

theorem lookup_grouped (key : α → κ) (list : List α) (k : κ) :
    ((grouped key list).lookup k).getD [] = list.filter (key · = k) ∧ (grouped key list).lookup k ≠ some [] := by
  unfold grouped
  induction list using List.reverseRecOn with
  | nil => exact ⟨rfl,nofun⟩
  | append_singleton front x ih =>
    rw [List.foldl_append,List.foldl_cons,List.foldl_nil,List.filter_append]
    by_cases same : key x = k
    · subst same
      rw [lookup_push,Option.getD_some,ih.1,List.filter_cons_of_pos (by simp),List.filter_nil]
      exact ⟨rfl,fun nothing => List.append_ne_nil_of_right_ne_nil _ (List.cons_ne_nil _ _) (Option.some.inj nothing)⟩
    · rw [lookup_push_ne _ _ (Ne.symm same),List.filter_cons_of_neg (by simp [same]),List.filter_nil,List.append_nil]
      exact ih

theorem mem_grouped {key : α → κ} {list part : List α} (found : (grouped key list).lookup k = some part) : x ∈ part ↔ x ∈ list ∧ key x = k := by
  have all := (lookup_grouped key list k).1
  rw [found,Option.getD_some] at all
  rw [all,List.mem_filter,decide_eq_true_iff]

-- `for k, v in pairs(t) do` with a body that leaves t alone.
def forEach (order : Order κ) (t : Table κ ν) (body : σ → κ → ν → σ) (s : σ) : σ :=
  (order.visit t.keys).foldl (fun s k => (t.lookup k).elim s (body s k)) s

section forEach
variable {order : Order κ} {t : Table κ ν} {body : σ → κ → ν → σ} (view : σ → γ)

theorem foldl_beside (untouched : ∀ s j v, j ≠ k → view (body s j v) = view s) {keys : List κ} (absent : k ∉ keys) (s : σ) :
    view (keys.foldl (fun s k => (t.lookup k).elim s (body s k)) s) = view s := by
  induction keys generalizing s with
  | nil => rfl
  | cons key rest ih =>
    obtain ⟨other,later⟩ := not_or.mp (List.mem_cons.not.mp absent)
    rw [List.foldl_cons,ih later]
    cases t.lookup key with
    | none => rfl
    | some v => exact untouched s key v (fun same => other same.symm)

-- A part of the state that only one key changes is changed once.
theorem forEach_at (untouched : ∀ s j v, j ≠ k → view (body s j v) = view s) (found : t.lookup k = some v) (start : σ) :
    ∃ s, view s = view start ∧ view (forEach order t body start) = view (body s k v) := by
  have there : k ∈ order.visit t.keys := visit_of_found found
  have once := order.nodup_visit t.keys_nodup
  unfold forEach
  obtain ⟨before,after,split⟩ := List.append_of_mem there
  rw [split] at once ⊢
  obtain ⟨_,tail,apart⟩ := List.nodup_append.mp once
  have early : k ∉ before := fun mem => apart k mem k List.mem_cons_self rfl
  refine ⟨before.foldl (fun s k => (t.lookup k).elim s (body s k)) start,foldl_beside view untouched early start,?_⟩
  rw [List.foldl_append,List.foldl_cons,foldl_beside view untouched (List.nodup_cons.mp tail).1,found,Option.elim_some]

theorem forEach_keeps {holds : σ → Prop} (kept : ∀ s k v, t.lookup k = some v → holds s → holds (body s k v)) (start : holds s) :
    holds (forEach order t body s) := by
  unfold forEach
  induction order.visit t.keys generalizing s with
  | nil => exact start
  | cons key rest ih =>
    rw [List.foldl_cons]
    cases found : t.lookup key with
    | none => exact ih start
    | some v => exact ih (kept s key v found start)

end forEach

end Table
end OriginGame
