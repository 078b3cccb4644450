import OriginGame.Aoi
import OriginGame.LuaArray

namespace OriginGame.AoiHeap
open Aoi (Position Object Callback Sets changeMode readMode leave call pairKey)

abbrev Pointer := Nat

-- A struct object.
structure Cell where
  id : Nat
  body : Object
  deriving DecidableEq

structure Pair where
  key : List Char
  watcher : Pointer
  marker : Pointer
  deriving DecidableEq

-- heap is what alloc has given out and not taken back. The id map is what its slots stand for.
structure Space where
  heap : Table Pointer Cell
  object : Table Nat Pointer
  hot : List Pair
  pairHash : List Pair
  maxAoiCount : Nat

-- alloc gives an address that is not in use; it may have been in use before.
structure Allocator where
  alloc : Table Pointer Cell → Pointer
  fresh : ∀ heap, alloc heap ∉ heap

-- The address behind all that are in use.
def Allocator.next : Allocator where
  alloc heap := heap.keys.foldr max 0+1
  fresh heap := fun there => absurd (LuaArray.Length.le_foldr_max (AList.mem_keys.mp there)) (by omega)

-- Floats come in by three comparisons only: DIST2 < 0, DIST2 > aoi_radis2 and DIST2 > 0.
structure Distances where
  near : Position → Position → Bool
  far : Position → Position → Bool
  apart : Position → Position → Bool

def emptySpace (maxAoiCount : Nat) : Space := ⟨∅,∅,[],[],maxAoiCount⟩

def Space.set (space : Space) (p : Pointer) (cell : Cell) : Space := {space with heap:=space.heap.insert p cell}

-- Every read of an object is in Option: none is a read of one that has been freed.

section Object

def newObject (allocator : Allocator) (space : Space) (id : Nat) : Pointer × Space :=
  (allocator.alloc space.heap,space.set (allocator.alloc space.heap) ⟨id,Aoi.newObject⟩)

def mapQuery (allocator : Allocator) (space : Space) (id : Nat) : Pointer × Space :=
  match space.object.lookup id with
  | some p => (p,space)
  | none =>
    let (p,space) := newObject allocator space id
    (p,{space with object:=space.object.insert id p})

def grabObject (p : Pointer) (space : Space) : Option Space := do
  let obj ← space.heap.lookup p
  some (space.set p {obj with body.ref:=obj.body.ref+1})

def dropObject (p : Pointer) (space : Space) : Option Space := do
  let obj ← space.heap.lookup p
  if obj.body.ref-1 ≤ 0 then some {space with object:=space.object.erase obj.id, heap:=space.heap.erase p}
  else some (space.set p {obj with body.ref:=obj.body.ref-1})

end Object

section Update
variable (distances : Distances)

def enter (obj : Object) (setWatcher setMarker : Bool) (rtype : Nat) (pos tpos : Position) : Object :=
  let obj := if obj.mode.drop then {obj with mode.drop:=false, ref:=obj.ref+1} else obj
  let (changed,mode) := changeMode obj.mode setWatcher setMarker
  let obj := {obj with mode:=mode, position:=pos, lastTpos:=obj.tposition, tposition:=tpos, rtype:=rtype}
  if changed || !distances.near pos obj.last then {obj with last:=pos, mode.move:=true} else obj

def aoiUpdate (allocator : Allocator) (space : Space) (id : Nat) (modestring : List Char) (rtype : Nat) (pos tpos : Position) :
    Option Space := do
  let (p,space) := mapQuery allocator space id
  let obj ← space.heap.lookup p
  match readMode modestring false false with
  | none => if obj.body.mode.drop then some space else dropObject p (space.set p {obj with body:=leave obj.body})
  | some (setWatcher,setMarker) => some (space.set p {obj with body:=enter distances obj.body setWatcher setMarker rtype pos tpos})

end Update

section Message
variable (distances : Distances)

def dropPair (p : Pair) (space : Space) : Option Space := do
  let space := {space with pairHash:=space.pairHash.erase p}
  let watcher ← space.heap.lookup p.watcher
  let space ← dropObject p.watcher (space.set p.watcher {watcher with body.aoiCount:=watcher.body.aoiCount-1})
  dropObject p.marker space

-- Whether the pair stays, and what is delivered for it.
def flushOne (watcher marker : Cell) : Bool × List Callback :=
  if watcher.body.mode.drop || marker.body.mode.drop then
    (false,if marker.body.mode.drop then [call watcher.id marker.id .d marker.body] else [])
  else if distances.far watcher.body.position marker.body.position then (false,[call watcher.id marker.id .d marker.body])
  else if marker.body.mode.move && distances.apart marker.body.lastTpos marker.body.tposition then
    (true,[call watcher.id marker.id .m marker.body])
  else (true,[])

def flushPairs : List Pair → Space → Option (List Pair × List Callback × Space)
  | [],space => some ([],[],space)
  | p::rest,space => do
    let watcher ← space.heap.lookup p.watcher
    let marker ← space.heap.lookup p.marker
    let (stays,calls) := flushOne distances watcher marker
    if stays then
      let (kept,later,space) ← flushPairs rest space
      some (p::kept,calls++later,space)
    else
      let space ← dropPair p space
      let (kept,later,space) ← flushPairs rest space
      some (kept,calls++later,space)

def flushPair (space : Space) : Option (Space × List Callback) := do
  let (kept,calls,space) ← flushPairs distances space.hot space
  some ({space with hot:=kept},calls)

def setPush (state : Sets × Space) (p : Pointer) : Option (Sets × Space) := do
  let obj ← state.2.heap.lookup p
  let sets := if obj.body.mode.watcher then
      if obj.body.mode.move then {state.1 with watcherMove:=state.1.watcherMove++[p]}
      else {state.1 with watcherStatic:=state.1.watcherStatic++[p]}
    else state.1
  let sets := if obj.body.mode.marker then
      if obj.body.mode.move then {sets with markerMove:=sets.markerMove++[p]}
      else {sets with markerStatic:=sets.markerStatic++[p]}
    else sets
  some (sets,if obj.body.mode.watcher || obj.body.mode.marker then state.2.set p {obj with body.mode.move:=false} else state.2)

-- HASH_FIND_STR
def findPair (space : Space) (watcher marker : Cell) : Option Pair :=
  space.pairHash.find? (fun p => p.key = pairKey watcher.id marker.id)

def addPair (w m : Pointer) (key : List Char) (space : Space) : Option Space := do
  let space ← grabObject w space
  let space ← grabObject m space
  let watcher ← space.heap.lookup w
  let space := space.set w {watcher with body.aoiCount:=watcher.body.aoiCount+1}
  some {space with hot:=⟨key,w,m⟩::space.hot, pairHash:=⟨key,w,m⟩::space.pairHash}

def genPair (state : Space × List Callback) (pointers : Pointer × Pointer) : Option (Space × List Callback) := do
  let (space,calls) := state
  let (w,m) := pointers
  let watcher ← space.heap.lookup w
  let marker ← space.heap.lookup m
  if w = m ∨ watcher.body.aoiCount ≥ space.maxAoiCount then some state
  else if (findPair space watcher marker).isSome then some state
  else if distances.far watcher.body.position marker.body.position then some state
  else
    let space ← addPair w m (pairKey watcher.id marker.id) space
    some (space,calls++[call watcher.id marker.id .m marker.body])

def genPairList (watchers markers : List Pointer) (state : Space × List Callback) : Option (Space × List Callback) :=
  (watchers.product markers).foldlM (genPair distances) state

-- map_foreach goes through the slots; their order is left open.
def mapForeach (order : Order Pointer) (space : Space) : List Pointer := order.visit (space.object.entries.map Sigma.snd)

def pushAll (order : Order Pointer) (space : Space) : Option (Sets × Space) :=
  (mapForeach order space).foldlM setPush (⟨[],[],[],[]⟩,space)

def aoiMessage (order : Order Pointer) (space : Space) : Option (Space × List Callback) := do
  let (space,calls) ← flushPair distances space
  let (sets,space) ← pushAll order space
  let state ← genPairList distances sets.watcherStatic sets.markerMove (space,calls)
  let state ← genPairList distances sets.watcherMove sets.markerStatic state
  genPairList distances sets.watcherMove sets.markerMove state

end Message

section Run

inductive Call where
  | update (id : Nat) (modestring : List Char) (rtype : Nat) (pos tpos : Position)
  | message (order : Order Pointer)

def step (allocator : Allocator) (distances : Distances) (space : Space) : Call → Option Space
  | .update id modestring rtype pos tpos => aoiUpdate distances allocator space id modestring rtype pos tpos
  | .message order => (aoiMessage distances order space).map Prod.fst

def run (allocator : Allocator) (distances : Distances) (maxAoiCount : Nat) (calls : List Call) : Option Space :=
  calls.foldlM (step allocator distances) (emptySpace maxAoiCount)

end Run
end OriginGame.AoiHeap
