import OriginGame.AoiMapExact
import OriginGame.AoiHeap

namespace OriginGame.AoiMap
open AoiHeap (Pointer Space Allocator)

variable {α : Type} {m : Map α} {objects : Table Nat α} {obj : α} {fuel id : Nat}

-- What the slots stand for.
structure Represents (m : Map α) (objects : Table Nat α) : Prop where
  sound : Sound m
  holds : ∀ id obj, Holds m id obj ↔ objects.lookup id = some obj

theorem new_represents : Represents (mapNew preAlloc : Map α) ∅ where
  sound := kept_start.sound
  holds id obj := by
    rw [kept_start.holds]
    rfl

theorem insert_represents {after : Map α} (represents : Represents m objects) (sound : Sound after) (missing : objects.lookup id = none)
    (holds : ∀ j o, Holds after j o ↔ j = id ∧ o = obj ∨ Holds m j o) : Represents after (objects.insert id obj) where
  sound := sound
  holds j o := by
    rw [holds,represents.holds]
    by_cases same : j = id
    · subst same
      rw [missing,AList.lookup_insert,Option.some_inj]
      simp [eq_comm]
    · rw [AList.lookup_insert_ne same]
      simp [same]

theorem mapDrop_represents (represents : Represents m objects) (small : id < 2^32) (enough : m.size ≤ fuel) :
    ∃ after, mapDrop fuel m id = some (objects.lookup id,after) ∧ Represents after (objects.erase id) := by
  obtain ⟨dropped,after,done,exact,sound,holds,_⟩ := drop_keeps represents.sound small enough
  have same : dropped = objects.lookup id := Option.ext (fun o => (exact o).trans (represents.holds id o))
  refine ⟨after,by rw [done,same],sound,?_⟩
  intro j o
  rw [holds,represents.holds]
  by_cases here : j = id
  · subst here
    simp
  · rw [AList.lookup_erase_ne here]
    simp [here]

-- The slots answer for the id map of the heap.
theorem mapQuery_represents {m : Map Pointer} {space : Space} (allocator : Allocator) (represents : Represents m space.object)
    (small : id < 2^32) (enough : 2*m.size+2 < fuel) :
    ∃ queried after, mapQuery (AoiHeap.newObject allocator) fuel space m id =
        some ((AoiHeap.mapQuery allocator space id).1,queried,after) ∧
      (AoiHeap.mapQuery allocator space id).2 = {queried with object:=(AoiHeap.mapQuery allocator space id).2.object} ∧
      Represents after (AoiHeap.mapQuery allocator space id).2.object := by
  unfold AoiHeap.mapQuery
  rcases query_keeps (AoiHeap.newObject allocator) space represents.sound small enough with
    ⟨p,held,done⟩ | ⟨nothing,after,done,sound,holds,_⟩
  · rw [(represents.holds id p).mp held]
    exact ⟨space,m,done,rfl,represents⟩
  · have missing : space.object.lookup id = none := by
      cases there : space.object.lookup id with
      | none => rfl
      | some p => exact absurd ((represents.holds id p).mpr there) (nothing p)
    rw [missing]
    exact ⟨_,after,done,rfl,insert_represents represents sound missing holds⟩

-- The objects of the slots under their ids.
def held (m : Map α) : List ((_ : Nat) × α) := m.slot.filterMap (fun s => s.obj.map (Sigma.mk s.id))

theorem held_mem (sound : Sound m) (entry : (_ : Nat) × α) : entry ∈ held m ↔ Holds m entry.1 entry.2 := by
  obtain ⟨chain,chained⟩ := sound
  obtain ⟨id,obj⟩ := entry
  rw [chained.heldIn]
  unfold held HeldIn
  simp only [List.mem_filterMap,Option.map_eq_some_iff]
  constructor
  · rintro ⟨slot,mem,_,there,same⟩
    cases same
    exact ⟨slot,mem,rfl,there⟩
  · rintro ⟨slot,mem,rfl,there⟩
    exact ⟨slot,mem,obj,there,rfl⟩

theorem held_nodup (sound : Sound m) : (held m).NodupKeys := by
  obtain ⟨chain,chained⟩ := sound
  unfold held List.NodupKeys List.keys List.Nodup
  rw [List.pairwise_map,List.pairwise_filterMap]
  refine chained.live.once.imp ?_
  intro one two apart entry first other second
  obtain ⟨obj,held,rfl⟩ := Option.map_eq_some_iff.mp first
  obtain ⟨obj',held',rfl⟩ := Option.map_eq_some_iff.mp second
  exact apart (Option.isSome_iff_exists.mpr ⟨obj,held⟩) (Option.isSome_iff_exists.mpr ⟨obj',held'⟩)

theorem held_foreach (m : Map α) : (held m).map Sigma.snd = mapForeach m := by
  unfold held mapForeach
  rw [List.map_filterMap]
  refine List.filterMap_congr ?_
  intro slot _
  cases slot.obj <;> rfl

-- map_foreach goes through the objects of the id map in the order of its slots.
theorem mapForeach_visits {m : Map Pointer} {space : Space} (represents : Represents m space.object) :
    ∃ order, AoiHeap.mapForeach order space = mapForeach m := by
  have perm : (mapForeach m).Perm (space.object.entries.map Sigma.snd) := by
    rw [←held_foreach m]
    refine List.Perm.map _ (List.mem_ext (held_nodup represents.sound).nodup space.object.nodupKeys.nodup ?_)
    intro entry
    rw [held_mem represents.sound,represents.holds,AList.mem_lookup_iff.symm]
    rfl
  exact ⟨.seen perm,Order.seen_visit perm⟩

end OriginGame.AoiMap
