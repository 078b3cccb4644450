import OriginGame.ItemPackages

namespace OriginGame.ItemPackages

section refs
variable {ρ α : Type} [DecidableEq ρ] (key : α → Nat) (grow : α → α → α)

-- The entries of a reward's lists are tables of their own. What an entry holds is under its
-- reference, and one that is inserted is shared with the list it comes from.
structure Entries (ρ α : Type) where
  cells : ρ → α
  list : List ρ

-- One entry of the second list: the first of the same key in the first list grows in place.
def mergeEntry (s : Entries ρ α) (more : ρ) : Entries ρ α :=
  match s.list.find? (fun r => key (s.cells r) = key (s.cells more)) with
  | some r => {s with cells:=Function.update s.cells r (grow (s.cells r) (s.cells more))}
  | none => {s with list:=s.list++[more]}

def mergeEntries (s : Entries ρ α) (add : List ρ) : Entries ρ α := add.foldl (mergeEntry key grow) s

-- The lists of two tables that share nothing, and both of them afterwards.
def mergeList (raw add : List α) : List α × List α :=
  let refs := List.finRange (raw++add).length
  let added := refs.drop raw.length
  let s := mergeEntries key grow ⟨(raw++add).get,refs.take raw.length⟩ added
  (s.list.map s.cells,added.map s.cells)

end refs

-- mergeReward with what becomes of its second argument.
def mergeTables (raw add : Reward) : Reward × Reward :=
  let items := mergeList Item.itemId growItem raw.items add.items
  let soldiers := mergeList RewardSoldier.id growSoldier raw.soldiers add.soldiers
  let heros := mergeList Hero.heroId growHero raw.heros add.heros
  let guildGifts := mergeList Gift.giftType growGift raw.guildGifts add.guildGifts
  ({
    currencies:=fun name => ((add.currencies name).map (fun value => (raw.currencies name).getD 0+value)).or (raw.currencies name)
    items:=items.1
    soldiers:=soldiers.1
    heros:=heros.1
    guildGifts:=guildGifts.1},
   {
    currencies:=add.currencies
    items:=items.2
    soldiers:=soldiers.2
    heros:=heros.2
    guildGifts:=guildGifts.2})

section refines
variable {ρ α : Type} [DecidableEq ρ] {key : α → Nat} {grow : α → α → α}

-- On the values an entry is merged by `bump`.
theorem find_bump (cells : ρ → α) (list : List ρ) (more : α) (distinct : list.Nodup) :
    bump key grow (list.map cells) more = match list.find? (fun r => key (cells r) = key more) with
      | some r => list.map (Function.update cells r (grow (cells r) more))
      | none => list.map cells++[more] := by
  induction list with
  | nil => rfl
  | cons r rest ih =>
    obtain ⟨absent,later⟩ := List.nodup_cons.mp distinct
    rw [List.map_cons,bump,List.find?_cons]
    by_cases same : key (cells r) = key more
    · rw [if_pos same]
      simp only [same,decide_true]
      rw [List.map_cons,Function.update_self]
      congr 1
      apply List.map_congr_left
      intro other there
      rw [Function.update_of_ne]
      rintro rfl
      exact absent there
    · rw [if_neg same,ih later]
      simp only [same,decide_false]
      cases found : rest.find? (fun r => key (cells r) = key more) with
      | none => rfl
      | some other =>
        dsimp only
        rw [List.map_cons,Function.update_of_ne]
        rintro rfl
        exact absent (List.mem_of_find?_eq_some found)

theorem mergeEntry_list (key : α → Nat) (grow : α → α → α) (s : Entries ρ α) (more : ρ) (distinct : s.list.Nodup) :
    (mergeEntry key grow s more).list.map (mergeEntry key grow s more).cells = bump key grow (s.list.map s.cells) (s.cells more) := by
  rw [find_bump s.cells s.list (s.cells more) distinct]
  unfold mergeEntry
  cases s.list.find? (fun r => key (s.cells r) = key (s.cells more)) with
  | some r => rfl
  | none => rw [List.map_append,List.map_cons,List.map_nil]

theorem mergeEntry_same {s : Entries ρ α} (found : s.list.find? (fun r => key (s.cells r) = key (s.cells more)) = some r) :
    (mergeEntry key grow s more).cells r = grow (s.cells r) (s.cells more) := by
  unfold mergeEntry
  rw [found]
  exact Function.update_self ..

theorem mergeEntry_other {s : Entries ρ α} (other : s.list.find? (fun r => key (s.cells r) = key (s.cells more)) ≠ some r) :
    (mergeEntry key grow s more).cells r = s.cells r := by
  unfold mergeEntry
  split
  next t found =>
    apply Function.update_of_ne
    rintro rfl
    exact other found
  next => rfl

-- As long as no reference is there twice, the first list becomes what the values say.
theorem mergeEntries_list (key : α → Nat) (grow : α → α → α) (s : Entries ρ α) (add : List ρ) (distinct : (s.list++add).Nodup) :
    (mergeEntries key grow s add).list.map (mergeEntries key grow s add).cells = (add.map s.cells).foldl (bump key grow) (s.list.map s.cells) := by
  induction add generalizing s with
  | nil => rfl
  | cons more rest ih =>
    obtain ⟨one,two,apart⟩ := List.nodup_append.mp distinct
    have once := mergeEntry_list key grow s more one
    have untouched : rest.map (mergeEntry key grow s more).cells = rest.map s.cells := by
      apply List.map_congr_left
      intro r there
      apply mergeEntry_other
      intro found
      exact apart r (List.mem_of_find?_eq_some found) r (List.mem_cons_of_mem _ there) rfl
    have still : ((mergeEntry key grow s more).list++rest).Nodup := by
      unfold mergeEntry
      split
      · exact (List.nodup_append.mpr ⟨one,(List.nodup_cons.mp two).2,fun a here b there => apart a here b (List.mem_cons_of_mem _ there)⟩)
      · rw [List.append_assoc]
        exact distinct
    change (mergeEntries key grow (mergeEntry key grow s more) rest).list.map _ = _
    rw [List.map_cons,List.foldl_cons,← once,← untouched]
    exact ih _ still

theorem refs_parts (raw add : List α) : ((List.finRange (raw++add).length).take raw.length).map (raw++add).get = raw ∧
    ((List.finRange (raw++add).length).drop raw.length).map (raw++add).get = add := by
  rw [List.map_take,List.map_drop,List.map_get_finRange,List.take_left,List.drop_left]
  exact ⟨rfl,rfl⟩

theorem refs_distinct (n k : Nat) : (((List.finRange n).take k)++((List.finRange n).drop k)).Nodup := by
  rw [List.take_append_drop]
  exact List.nodup_finRange n

theorem mergeList_first (raw add : List α) : (mergeList key grow raw add).1 = add.foldl (bump key grow) raw := by
  have parts := refs_parts raw add
  have merged := mergeEntries_list key grow ⟨(raw++add).get,(List.finRange (raw++add).length).take raw.length⟩
    ((List.finRange (raw++add).length).drop raw.length) (refs_distinct _ _)
  rw [parts.1,parts.2] at merged
  exact merged

end refines

theorem mergeTables_first (raw add : Reward) : (mergeTables raw add).1 = mergeReward raw add := by
  unfold mergeTables mergeReward
  dsimp only
  rw [mergeList_first,mergeList_first,mergeList_first,mergeList_first]

section shared
variable {ρ α : Type} [DecidableEq ρ] {key : α → Nat} {grow : α → α → α}

theorem mergeEntry_key (kept : ∀ x more, key (grow x more) = key x) (s : Entries ρ α) (more r : ρ) :
    key ((mergeEntry key grow s more).cells r) = key (s.cells r) := by
  by_cases found : s.list.find? (fun r => key (s.cells r) = key (s.cells more)) = some r
  · rw [mergeEntry_same found,kept]
  · rw [mergeEntry_other found]

-- Entries that are inserted stay as they are when none of them has a second one of its key.
theorem mergeEntries_keeps (kept : ∀ x more, key (grow x more) = key x) (s : Entries ρ α) (add : List ρ) (held : ρ → Prop)
    (matches_ : ∀ more ∈ add, ∀ r, s.list.find? (fun r => key (s.cells r) = key (s.cells more)) = some r → ¬held r)
    (single : add.Pairwise (fun first second => key (s.cells first) = key (s.cells second) → ∃ r ∈ s.list, key (s.cells r) = key (s.cells first)))
    {r : ρ} (its : held r) : (mergeEntries key grow s add).cells r = s.cells r := by
  induction add generalizing s with
  | nil => rfl
  | cons more rest ih =>
    obtain ⟨alone,later⟩ := List.pairwise_cons.mp single
    have keys (r : ρ) : key ((mergeEntry key grow s more).cells r) = key (s.cells r) := mergeEntry_key kept s more r
    have stays : (mergeEntry key grow s more).cells r = s.cells r :=
      mergeEntry_other (fun found => matches_ more List.mem_cons_self r found its)
    have grown (t : ρ) (there : t ∈ s.list) : t ∈ (mergeEntry key grow s more).list := by
      unfold mergeEntry
      split
      · exact there
      · exact List.mem_append_left _ there
    change (mergeEntries key grow (mergeEntry key grow s more) rest).cells r = _
    rw [ih,stays]
    · intro next there t found
      simp only [keys] at found
      unfold mergeEntry at found
      split at found
      · exact matches_ next (List.mem_cons_of_mem _ there) t found
      next missing =>
        rw [List.find?_append] at found
        rcases Option.or_eq_some_iff.mp found with early | ⟨_,last⟩
        · exact matches_ next (List.mem_cons_of_mem _ there) t early
        · -- A second one of the key would have found an entry of the first list.
          have same : key (s.cells t) = key (s.cells next) := by simpa using List.find?_some last
          cases List.mem_singleton.mp (List.mem_of_find?_eq_some last)
          obtain ⟨other,here,equal⟩ := alone next there same
          exact absurd (decide_eq_true equal) (List.find?_eq_none.mp missing other here)
    · refine later.imp (fun {first second} seen same => ?_)
      simp only [keys] at same ⊢
      obtain ⟨other,here,equal⟩ := seen same
      exact ⟨other,grown other here,equal⟩

theorem mergeList_second (kept : ∀ x more, key (grow x more) = key x) (raw add : List α)
    (single : add.Pairwise (fun first second => key first = key second → ∃ x ∈ raw, key x = key first)) :
    (mergeList key grow raw add).2 = add := by
  have parts := refs_parts raw add
  have distinct := refs_distinct (raw++add).length raw.length
  obtain ⟨_,_,apart⟩ := List.nodup_append.mp distinct
  have same : ((List.finRange (raw++add).length).drop raw.length).map
      (mergeEntries key grow ⟨(raw++add).get,(List.finRange (raw++add).length).take raw.length⟩ ((List.finRange (raw++add).length).drop raw.length)).cells =
      ((List.finRange (raw++add).length).drop raw.length).map (raw++add).get := by
    apply List.map_congr_left
    intro r there
    refine mergeEntries_keeps kept ⟨(raw++add).get,(List.finRange (raw++add).length).take raw.length⟩ _
      (fun r => r ∈ (List.finRange (raw++add).length).drop raw.length) ?_ ?_ there
    · intro more _ t found here
      exact apart t (List.mem_of_find?_eq_some found) t here rfl
    · have values := single
      rw [← parts.2,List.pairwise_map] at values
      refine values.imp (fun {first second} seen equal => ?_)
      obtain ⟨x,here,its⟩ := seen equal
      rw [← parts.1] at here
      obtain ⟨t,there,rfl⟩ := List.mem_map.mp here
      exact ⟨t,there,its⟩
  exact same.trans parts.2

end shared

end OriginGame.ItemPackages
