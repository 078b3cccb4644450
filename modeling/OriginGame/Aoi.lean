import Mathlib.Data.Rat.Defs
import Mathlib.Algebra.Order.Ring.Rat
import OriginGame.LuaTable

namespace OriginGame.Aoi

-- Floats as exact numbers.
structure Position where
  x : ℚ
  y : ℚ
  z : ℚ
  deriving DecidableEq

def dist2 (p q : Position) : ℚ := (p.x-q.x)*(p.x-q.x)+(p.y-q.y)*(p.y-q.y)+(p.z-q.z)*(p.z-q.z)

-- The bits of mode.
structure Mode where
  watcher : Bool
  marker : Bool
  move : Bool
  drop : Bool
  deriving DecidableEq

structure Object where
  ref : Int
  mode : Mode
  last : Position
  position : Position
  tposition : Position
  lastTpos : Position
  rtype : Nat
  aoiCount : Int
  deriving DecidableEq

-- Objects under their ids; a pair points to objects that stay in the map while it lives.
structure Pair where
  key : List Char
  watcher : Nat
  marker : Nat
  deriving DecidableEq

structure Space where
  object : Table Nat Object
  hot : List Pair
  pairHash : List Pair
  maxAoiCount : Nat
  radius2 : ℚ

inductive Action where
  | m | d
  deriving DecidableEq

structure Callback where
  watcher : Nat
  marker : Nat
  action : Action
  position : Position
  tposition : Position
  rtype : Nat
  deriving DecidableEq

def origin : Position := ⟨0,0,0⟩

def newObject : Object := ⟨1,⟨false,false,false,false⟩,origin,origin,origin,origin,0,0⟩

def query (objects : Table Nat Object) (id : Nat) : Object := (objects.lookup id).getD newObject

-- `%ld%ld` into a buffer of PAIR_KEY_LEN characters.
def pairKey (watcher marker : Nat) : List Char := (Nat.toDigits 10 watcher++Nat.toDigits 10 marker).take 64

section Update

def changeMode (mode : Mode) (setWatcher setMarker : Bool) : Bool × Mode :=
  if mode = ⟨false,false,false,false⟩ then (true,⟨setWatcher,setMarker,false,false⟩)
  else (mode.watcher != setWatcher || mode.marker != setMarker,{mode with watcher:=setWatcher, marker:=setMarker})

def isNear (p q : Position) : Bool := dist2 p q < 0

-- none is the return at a d.
def readMode : List Char → Bool → Bool → Option (Bool × Bool)
  | [],watcher,marker => some (watcher,marker)
  | 'w'::rest,_,marker => readMode rest true marker
  | 'm'::rest,watcher,_ => readMode rest watcher true
  | 'd'::_,_,_ => none
  | _::rest,watcher,marker => readMode rest watcher marker

def dropObject (objects : Table Nat Object) (id : Nat) : Table Nat Object :=
  match objects.lookup id with
  | none => objects
  | some obj => if obj.ref-1 ≤ 0 then objects.erase id else objects.insert id {obj with ref:=obj.ref-1}

def leave (obj : Object) : Object := {obj with mode:=⟨false,false,false,true⟩}

def enter (obj : Object) (setWatcher setMarker : Bool) (rtype : Nat) (pos tpos : Position) : Object :=
  let obj := if obj.mode.drop then {obj with mode.drop:=false, ref:=obj.ref+1} else obj
  let (changed,mode) := changeMode obj.mode setWatcher setMarker
  let obj := {obj with mode:=mode, position:=pos, lastTpos:=obj.tposition, tposition:=tpos, rtype:=rtype}
  if changed || !isNear pos obj.last then {obj with last:=pos, mode.move:=true} else obj

def aoiUpdate (space : Space) (id : Nat) (modestring : List Char) (rtype : Nat) (pos tpos : Position) : Space :=
  let obj := query space.object id
  match readMode modestring false false with
  | none =>
    if obj.mode.drop then {space with object:=space.object.insert id obj}
    else {space with object:=dropObject (space.object.insert id (leave obj)) id}
  | some (setWatcher,setMarker) => {space with object:=space.object.insert id (enter obj setWatcher setMarker rtype pos tpos)}

end Update

section Message

def call (watcher marker : Nat) (action : Action) (obj : Object) : Callback :=
  ⟨watcher,marker,action,obj.position,obj.tposition,obj.rtype⟩

def dropPair (p : Pair) (space : Space) : Space :=
  let watcher := query space.object p.watcher
  let objects := space.object.insert p.watcher {watcher with aoiCount:=watcher.aoiCount-1}
  {space with pairHash:=space.pairHash.erase p, object:=dropObject (dropObject objects p.watcher) p.marker}

-- Whether the pair stays, and what is delivered for it.
def flushOne (radius2 : ℚ) (p : Pair) (watcher marker : Object) : Bool × List Callback :=
  if watcher.mode.drop || marker.mode.drop then
    (false,if marker.mode.drop then [call p.watcher p.marker .d marker] else [])
  else if dist2 watcher.position marker.position > radius2 then (false,[call p.watcher p.marker .d marker])
  else if marker.mode.move && decide (dist2 marker.lastTpos marker.tposition > 0) then
    (true,[call p.watcher p.marker .m marker])
  else (true,[])

def flushPairs : List Pair → Space → List Pair × List Callback × Space
  | [],space => ([],[],space)
  | p::rest,space =>
    match flushOne space.radius2 p (query space.object p.watcher) (query space.object p.marker) with
    | (true,calls) =>
      let (kept,later,space) := flushPairs rest space
      (p::kept,calls++later,space)
    | (false,calls) =>
      let (kept,later,space) := flushPairs rest (dropPair p space)
      (kept,calls++later,space)

def flushPair (space : Space) : Space × List Callback :=
  let (kept,calls,space) := flushPairs space.hot space
  ({space with hot:=kept},calls)

structure Sets where
  watcherStatic : List Nat
  markerStatic : List Nat
  watcherMove : List Nat
  markerMove : List Nat

def setPush (state : Sets × Table Nat Object) (id : Nat) : Sets × Table Nat Object :=
  let obj := query state.2 id
  let sets := if obj.mode.watcher then
      if obj.mode.move then {state.1 with watcherMove:=state.1.watcherMove++[id]}
      else {state.1 with watcherStatic:=state.1.watcherStatic++[id]}
    else state.1
  let sets := if obj.mode.marker then
      if obj.mode.move then {sets with markerMove:=sets.markerMove++[id]}
      else {sets with markerStatic:=sets.markerStatic++[id]}
    else sets
  (sets,if obj.mode.watcher || obj.mode.marker then state.2.insert id {obj with mode.move:=false} else state.2)

def addPair (w m : Nat) (space : Space) : Space :=
  let watcher := query space.object w
  let marker := query space.object m
  let p : Pair := ⟨pairKey w m,w,m⟩
  let objects := space.object.insert w {watcher with ref:=watcher.ref+1, aoiCount:=watcher.aoiCount+1}
  {space with object:=objects.insert m {marker with ref:=marker.ref+1}, hot:=p::space.hot, pairHash:=p::space.pairHash}

def genPair (state : Space × List Callback) (ids : Nat × Nat) : Space × List Callback :=
  let (space,calls) := state
  let (w,m) := ids
  let watcher := query space.object w
  let marker := query space.object m
  if w = m ∨ watcher.aoiCount ≥ space.maxAoiCount then state
  else if space.pairHash.any (fun p => p.key = pairKey w m) then state
  else if dist2 watcher.position marker.position > space.radius2 then state
  else (addPair w m space,calls++[call w m .m marker])

def genPairList (watchers markers : List Nat) (state : Space × List Callback) : Space × List Callback :=
  (watchers.product markers).foldl genPair state

-- map_foreach goes through the slots; their order is left open.
def aoiMessage (order : Order Nat) (space : Space) : Space × List Callback :=
  let (space,calls) := flushPair space
  let (sets,objects) := (order.visit space.object.keys).foldl setPush (⟨[],[],[],[]⟩,space.object)
  let state := ({space with object:=objects},calls)
  let state := genPairList sets.watcherStatic sets.markerMove state
  let state := genPairList sets.watcherMove sets.markerStatic state
  genPairList sets.watcherMove sets.markerMove state

end Message
end OriginGame.Aoi
