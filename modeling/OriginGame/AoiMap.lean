import OriginGame.Links
import OriginGame.LuaTable

namespace OriginGame.AoiMap

-- ~0 in a size_t: no id of 32 bits is it, 0xFFFFFFFF neither.
def invalidId : Nat := 2^64-1

-- next is an index, none for -1.
structure Slot (α : Type) where
  id : Nat
  obj : Option α
  next : Option Nat

-- lastfree counts the slots that are still to be looked at: one more than in the source.
structure Map (α : Type) where
  slot : List (Slot α)
  lastfree : Nat

variable {α σ : Type}

def Map.size (m : Map α) : Nat := m.slot.length

def Map.put (m : Map α) (s : Nat) (slot : Slot α) : Map α := {m with slot:=m.slot.set s slot}

def mainposition (m : Map α) (id : Nat) : Nat := (id%2^32)&&&(m.size-1)

def mapNew (size : Nat) : Map α := ⟨List.replicate size ⟨invalidId,none,none⟩,size⟩

-- PRE_ALLOC
def preAlloc : Nat := 16

-- What follows is none where the source reads outside of the slots, where an assertion
-- fails, and where it goes round more often than the fuel allows.

-- The first slot of a chain that is looked for, none at its end.
def follow (m : Map α) (wanted : Slot α → Bool) : Nat → Nat → Option (Option Nat)
  | 0,_ => none
  | fuel+1,s => do
    let slot ← m.slot[s]?
    if wanted slot then some (some s)
    else match slot.next with
      | none => some none
      | some next => follow m wanted fuel next

-- `while (last->next != s - m->slot)`, whose assertion fails at the end of the chain.
def previous (m : Map α) (fuel s start : Nat) : Option Nat := do
  let found ← follow m (fun last => last.next = some s) fuel start
  found

-- `while (m->lastfree >= 0)`: where it stops, and the free slot.
def takeFree (slots : List (Slot α)) : Nat → Option (Nat × Option Nat)
  | 0 => some (0,none)
  | lastfree+1 => do
    let temp ← slots[lastfree]?
    if temp.id = invalidId then some (lastfree,some lastfree) else takeFree slots lastfree

-- One slot of the old table.
def moveSlot (insert : Map α → Nat → α → Option (Map α)) (m : Map α) (s : Slot α) : Option (Map α) :=
  match s.obj with
  | some obj => insert m (s.id%2^32) obj
  | none => some m

def rehashBy (insert : Map α → Nat → α → Option (Map α)) (m : Map α) : Option (Map α) :=
  m.slot.foldlM (moveSlot insert) (mapNew (2*m.size))

def mapInsert : Nat → Map α → Nat → α → Option (Map α)
  | 0,_,_,_ => none
  | fuel+1,m,id,obj => do
    let s := mainposition m id
    let slot ← m.slot[s]?
    if slot.id = invalidId then some (m.put s {slot with id:=id, obj:=some obj})
    else if mainposition m slot.id ≠ s then
      let last ← previous m fuel s (mainposition m slot.id)
      let lastSlot ← m.slot[last]?
      let m := (m.put last {lastSlot with next:=slot.next}).put s ⟨id,some obj,none⟩
      match slot.obj with
      | some temp => mapInsert fuel m (slot.id%2^32) temp
      | none => some m
    else
      let (lastfree,free) ← takeFree m.slot m.lastfree
      let m := {m with lastfree:=lastfree}
      match free with
      | some temp => some ((m.put temp ⟨id,some obj,slot.next⟩).put s {slot with next:=some temp})
      | none =>
        let m ← rehashBy (mapInsert fuel) m
        mapInsert fuel m id obj

def rehash (fuel : Nat) (m : Map α) : Option (Map α) := rehashBy (mapInsert fuel) m

-- new_object takes from the allocator, which is in the space.
def mapQuery (newObject : σ → Nat → α × σ) (fuel : Nat) (space : σ) (m : Map α) (id : Nat) : Option (α × σ × Map α) := do
  let found ← follow m (fun slot => slot.id = id) fuel (mainposition m id)
  match found with
  | some s =>
    let slot ← m.slot[s]?
    match slot.obj with
    | some obj => some (obj,space,m)
    | none =>
      let (obj,space) := newObject space id
      some (obj,space,m.put s {slot with obj:=some obj})
  | none =>
    let (obj,space) := newObject space id
    let m ← mapInsert fuel m id obj
    some (obj,space,m)

def mapDrop (fuel : Nat) (m : Map α) (id : Nat) : Option (Option α × Map α) := do
  let found ← follow m (fun slot => slot.id = id) fuel (mainposition m id)
  match found with
  | some s =>
    let slot ← m.slot[s]?
    some (slot.obj,m.put s {slot with obj:=none})
  | none => some (none,m)

-- The objects map_foreach goes through.
def mapForeach (m : Map α) : List α := m.slot.filterMap Slot.obj

end OriginGame.AoiMap
