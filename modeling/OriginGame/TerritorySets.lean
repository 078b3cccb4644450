import OriginGame.GuildTerritoryMgr

namespace OriginGame.Territory
variable {t : GuildTerritory} {findPath : TerritoryId → Bool} {id : TerritoryId} {ids pre : List TerritoryId}

theorem mem_held : id ∈ t.held ↔ id ∈ t.validTerritoryIds ∨ id ∈ t.invalidTerritoryIds := Finset.mem_union

section addition

theorem addOne_closed (new : TerritoryId) :
    (id ∈ (t.addOne findPath new).validTerritoryIds ↔ id ∈ t.validTerritoryIds ∨ (id = new ∧ findPath id = true)) ∧
    (id ∈ (t.addOne findPath new).invalidTerritoryIds ↔ id ∈ t.invalidTerritoryIds ∨ (id = new ∧ findPath id = false)) ∧
    (id ∈ (t.addOne findPath new).preOccupyTerritoryIds ↔ id ∈ t.preOccupyTerritoryIds ∧ id ≠ new) := by
  unfold GuildTerritory.addOne
  cases found : findPath new with
  | true =>
    refine ⟨?_,?_,?_⟩
    · simp only [if_true,Finset.mem_insert]
      grind
    · simp only [if_true]
      grind
    · simp only [if_true,Finset.mem_erase]
      exact and_comm
  | false =>
    refine ⟨?_,?_,?_⟩
    · simp only [Bool.false_eq_true,if_false]
      grind
    · simp only [Bool.false_eq_true,if_false,Finset.mem_insert]
      grind
    · simp only [Bool.false_eq_true,if_false,Finset.mem_erase]
      exact and_comm

theorem addAll_closed (ids : List TerritoryId) :
    (id ∈ (ids.foldl (GuildTerritory.addOne findPath) t).validTerritoryIds ↔ id ∈ t.validTerritoryIds ∨ (id ∈ ids ∧ findPath id = true)) ∧
    (id ∈ (ids.foldl (GuildTerritory.addOne findPath) t).invalidTerritoryIds ↔ id ∈ t.invalidTerritoryIds ∨ (id ∈ ids ∧ findPath id = false)) ∧
    (id ∈ (ids.foldl (GuildTerritory.addOne findPath) t).preOccupyTerritoryIds ↔ id ∈ t.preOccupyTerritoryIds ∧ id ∉ ids) := by
  induction ids generalizing t with
  | nil => simp
  | cons new rest ih =>
    rw [List.foldl_cons]
    refine ⟨?_,?_,?_⟩
    · rw [ih.1,(addOne_closed new).1,List.mem_cons,or_and_right,or_assoc]
    · rw [ih.2.1,(addOne_closed new).2.1,List.mem_cons,or_and_right,or_assoc]
    · rw [ih.2.2,(addOne_closed new).2.2,List.mem_cons,not_or,and_assoc]

theorem held_check : (t.checkGuildInvalidTerritory findPath).held = t.held := by
  ext id
  simp only [mem_held,GuildTerritory.checkGuildInvalidTerritory,Finset.mem_union,Finset.mem_filter]
  cases findPath id <;> simp

theorem held_preOccupyOne (new : TerritoryId) (inside : id ∈ (t.preOccupyOne new).held) : id ∈ t.held := by
  simp only [GuildTerritory.preOccupyOne,mem_held] at inside ⊢
  split at inside
  · simp only [Finset.mem_erase] at inside
    tauto
  · split at inside
    · simp only [Finset.mem_erase] at inside
      tauto
    · exact inside

theorem held_preOccupyAll (ids : List TerritoryId) (inside : id ∈ (ids.foldl GuildTerritory.preOccupyOne t).held) : id ∈ t.held := by
  induction ids generalizing t with
  | nil => exact inside
  | cons new rest ih => exact held_preOccupyOne new (ih inside)

-- A tile the guild does not hold is only marked.
theorem preOccupyOne_outside (outside : id ∉ t.held) :
    t.preOccupyOne id = {t with preOccupyTerritoryIds:=insert id t.preOccupyTerritoryIds} := by
  rw [mem_held,not_or] at outside
  simp only [GuildTerritory.preOccupyOne,outside.1,outside.2,if_false]

theorem preOccupyAll_outside (ids : List TerritoryId) (outside : ∀ id ∈ ids, id ∉ t.held) :
    ids.foldl GuildTerritory.preOccupyOne t = {t with preOccupyTerritoryIds:=ids.toFinset ∪ t.preOccupyTerritoryIds} := by
  induction ids generalizing t with
  | nil => simp
  | cons new rest ih =>
    rw [List.foldl_cons,preOccupyOne_outside (outside new List.mem_cons_self),ih]
    · simp only [List.toFinset_cons,Finset.insert_union,Finset.union_insert]
    · intro id later
      exact outside id (List.mem_cons_of_mem _ later)

-- With a connected new tile, every tile of the guild that was not valid is looked at again.
theorem add_checked (some : ∃ new ∈ ids, findPath new = true) :
    (id ∈ (t.addGuildTerritory findPath ids []).validTerritoryIds ↔
      id ∈ t.validTerritoryIds ∨ ((id ∈ t.invalidTerritoryIds ∨ id ∈ ids) ∧ findPath id = true)) ∧
    (id ∈ (t.addGuildTerritory findPath ids []).invalidTerritoryIds ↔ (id ∈ t.invalidTerritoryIds ∨ id ∈ ids) ∧ findPath id = false) := by
  have any : ids.any findPath = true := List.any_eq_true.mpr some
  simp only [GuildTerritory.addGuildTerritory,any,if_true,List.foldl_nil,GuildTerritory.checkGuildInvalidTerritory,Finset.mem_union,
    Finset.mem_filter,(addAll_closed ids).1,(addAll_closed ids).2.1]
  cases findPath id with
  | true => simp [or_left_comm,or_comm]
  | false => simp

theorem add_unchecked (none : ∀ new ∈ ids, findPath new = false) :
    (id ∈ (t.addGuildTerritory findPath ids []).validTerritoryIds ↔ id ∈ t.validTerritoryIds) ∧
    (id ∈ (t.addGuildTerritory findPath ids []).invalidTerritoryIds ↔ id ∈ t.invalidTerritoryIds ∨ id ∈ ids) := by
  have any : ids.any findPath = false := by
    rw [List.any_eq_false]
    intro new inside
    rw [none new inside]
    exact Bool.false_ne_true
  simp only [GuildTerritory.addGuildTerritory,any,Bool.false_eq_true,if_false,List.foldl_nil,(addAll_closed ids).1,(addAll_closed ids).2.1]
  refine ⟨or_iff_left ?_,or_congr_right (and_iff_left_of_imp (none id))⟩
  rintro ⟨inside,found⟩
  rw [none id inside] at found
  cases found

-- When the valid tiles still have a path, and no other tile gets one that no new tile has.
theorem add_sorted (kept : ∀ id ∈ t.validTerritoryIds, findPath id = true)
    (joined : (∃ new ∈ ids, findPath new = true) ∨ ∀ id ∈ t.invalidTerritoryIds, findPath id = false) :
    (id ∈ (t.addGuildTerritory findPath ids []).validTerritoryIds ↔ (id ∈ t.held ∨ id ∈ ids) ∧ findPath id = true) ∧
    (id ∈ (t.addGuildTerritory findPath ids []).invalidTerritoryIds ↔ (id ∈ t.held ∨ id ∈ ids) ∧ findPath id = false) := by
  have still := kept id
  rw [mem_held]
  by_cases some : ∃ new ∈ ids, findPath new = true
  · rw [(add_checked some).1,(add_checked some).2]
    grind
  · have none : ∀ new ∈ ids, findPath new = false := by
      intro new inside
      exact Bool.eq_false_iff.mpr (fun found => some ⟨new,inside,found⟩)
    have apart := joined.resolve_left some id
    have unfound := none id
    rw [(add_unchecked none).1,(add_unchecked none).2]
    grind

theorem held_add (inside : id ∈ (t.addGuildTerritory findPath ids pre).held) : id ∈ t.held ∨ id ∈ ids := by
  have added : id ∈ (ids.foldl (GuildTerritory.addOne findPath) t).held := by
    unfold GuildTerritory.addGuildTerritory at inside
    have left := held_preOccupyAll pre inside
    split at left
    · rwa [held_check] at left
    · exact left
  rw [mem_held,(addAll_closed ids).1,(addAll_closed ids).2.1] at added
  rw [mem_held]
  tauto

theorem add_marks : id ∈ (t.addGuildTerritory findPath ids []).preOccupyTerritoryIds ↔ id ∈ t.preOccupyTerritoryIds ∧ id ∉ ids := by
  have marks : id ∈ (ids.foldl (GuildTerritory.addOne findPath) t).preOccupyTerritoryIds ↔ id ∈ t.preOccupyTerritoryIds ∧ id ∉ ids :=
    (addAll_closed ids).2.2
  rw [← marks]
  unfold GuildTerritory.addGuildTerritory
  split <;> rfl

-- Tiles to pre-occupy that the guild does not hold are only marked.
theorem add_outside (outside : ∀ id ∈ pre, id ∉ t.held ∧ id ∉ ids) :
    t.addGuildTerritory findPath ids pre =
      {t.addGuildTerritory findPath ids [] with
        preOccupyTerritoryIds:=pre.toFinset ∪ (t.addGuildTerritory findPath ids []).preOccupyTerritoryIds} := by
  change pre.foldl GuildTerritory.preOccupyOne (t.addGuildTerritory findPath ids []) = _
  apply preOccupyAll_outside
  intro id marked inside
  rcases held_add inside with held | new
  · exact (outside id marked).1 held
  · exact (outside id marked).2 new

end addition

section change

theorem statusOne_closed (new : TerritoryId) :
    (id ∈ (t.statusOne findPath new).validTerritoryIds ↔ if id = new then id ∈ t.held ∧ findPath id = true else id ∈ t.validTerritoryIds) ∧
    (id ∈ (t.statusOne findPath new).invalidTerritoryIds ↔ if id = new then id ∈ t.held ∧ findPath id = false else id ∈ t.invalidTerritoryIds) := by
  unfold GuildTerritory.statusOne
  rw [mem_held]
  cases found : findPath new with
  | true =>
    simp only [if_true]
    split
    · simp only [Finset.mem_insert,Finset.mem_erase]
      grind
    · grind
  | false =>
    simp only [Bool.false_eq_true,if_false]
    split
    · simp only [Finset.mem_insert,Finset.mem_erase]
      grind
    · grind

theorem status_closed (ids : List TerritoryId) :
    (id ∈ (t.guildTerritoryStatusChange findPath ids).validTerritoryIds ↔
      if id ∈ ids then id ∈ t.held ∧ findPath id = true else id ∈ t.validTerritoryIds) ∧
    (id ∈ (t.guildTerritoryStatusChange findPath ids).invalidTerritoryIds ↔
      if id ∈ ids then id ∈ t.held ∧ findPath id = false else id ∈ t.invalidTerritoryIds) := by
  induction ids generalizing t with
  | nil => simp [GuildTerritory.guildTerritoryStatusChange]
  | cons new rest ih =>
    have held : id ∈ (t.statusOne findPath new).held ↔ id ∈ t.held := by
      rw [mem_held,mem_held,(statusOne_closed new).1,(statusOne_closed new).2,mem_held]
      cases findPath id <;> split <;> simp
    change (id ∈ ((t.statusOne findPath new).guildTerritoryStatusChange findPath rest).validTerritoryIds ↔ _) ∧
      (id ∈ ((t.statusOne findPath new).guildTerritoryStatusChange findPath rest).invalidTerritoryIds ↔ _)
    rw [ih.1,ih.2,held,(statusOne_closed new).1,(statusOne_closed new).2]
    by_cases later : id ∈ rest
    · simp [later]
    · simp [later]

theorem status_pre (ids : List TerritoryId) :
    (t.guildTerritoryStatusChange findPath ids).preOccupyTerritoryIds = t.preOccupyTerritoryIds := by
  induction ids generalizing t with
  | nil => rfl
  | cons new rest ih =>
    change ((t.statusOne findPath new).guildTerritoryStatusChange findPath rest).preOccupyTerritoryIds = _
    rw [ih,GuildTerritory.statusOne]
    split <;> split <;> rfl

end change

section deletion

theorem deleteOne_valid (gone : TerritoryId) : id ∈ (t.deleteOne gone).validTerritoryIds ↔ id ∈ t.validTerritoryIds ∧ id ≠ gone := by
  unfold GuildTerritory.deleteOne
  split
  · rw [Finset.mem_erase,and_comm]
  · split <;> grind

-- In one of the two sets at most.
def Single (t : GuildTerritory) (id : TerritoryId) : Prop := ¬(id ∈ t.validTerritoryIds ∧ id ∈ t.invalidTerritoryIds)

theorem deleteOne_invalid (single : Single t id) (gone : TerritoryId) :
    id ∈ (t.deleteOne gone).invalidTerritoryIds ↔ id ∈ t.invalidTerritoryIds ∧ id ≠ gone := by
  unfold Single at single
  unfold GuildTerritory.deleteOne
  split
  · grind
  · split
    · rw [Finset.mem_erase,and_comm]
    · grind

theorem delete_closed (single : Single t id) (ids : List TerritoryId) :
    (id ∈ (t.deleteGuildTerritory ids).validTerritoryIds ↔ id ∈ t.validTerritoryIds ∧ id ∉ ids) ∧
    (id ∈ (t.deleteGuildTerritory ids).invalidTerritoryIds ↔ id ∈ t.invalidTerritoryIds ∧ id ∉ ids) := by
  induction ids generalizing t with
  | nil => simp [GuildTerritory.deleteGuildTerritory]
  | cons gone rest ih =>
    have left : Single (t.deleteOne gone) id := by
      rw [Single,deleteOne_valid,deleteOne_invalid single]
      exact fun both => single ⟨both.1.1,both.2.1⟩
    change (id ∈ ((t.deleteOne gone).deleteGuildTerritory rest).validTerritoryIds ↔ _) ∧
      (id ∈ ((t.deleteOne gone).deleteGuildTerritory rest).invalidTerritoryIds ↔ _)
    rw [(ih left).1,(ih left).2,deleteOne_valid,deleteOne_invalid single,List.mem_cons,not_or,and_assoc,and_assoc]
    exact ⟨Iff.rfl,Iff.rfl⟩

theorem delete_gone (single : Single t id) (inside : id ∈ ids) : id ∉ (t.deleteGuildTerritory ids).held := by
  rw [mem_held,(delete_closed single ids).1,(delete_closed single ids).2]
  tauto

theorem deleteOne_subset (gone : TerritoryId) : (t.deleteOne gone).held ⊆ t.held ∧ (t.deleteOne gone).preOccupyTerritoryIds ⊆ t.preOccupyTerritoryIds := by
  unfold GuildTerritory.deleteOne GuildTerritory.held
  split
  · exact ⟨Finset.union_subset_union_left (Finset.erase_subset _ _),Finset.Subset.refl _⟩
  · split
    · exact ⟨Finset.union_subset_union_right (Finset.erase_subset _ _),Finset.Subset.refl _⟩
    · exact ⟨Finset.Subset.refl _,Finset.erase_subset _ _⟩

theorem delete_subset (ids : List TerritoryId) :
    (t.deleteGuildTerritory ids).held ⊆ t.held ∧ (t.deleteGuildTerritory ids).preOccupyTerritoryIds ⊆ t.preOccupyTerritoryIds := by
  induction ids generalizing t with
  | nil => exact ⟨Finset.Subset.refl _,Finset.Subset.refl _⟩
  | cons gone rest ih => exact ⟨ih.1.trans (deleteOne_subset gone).1,ih.2.trans (deleteOne_subset gone).2⟩

end deletion
end OriginGame.Territory
