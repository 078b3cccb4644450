import Mathlib.Algebra.Order.Ring.Rat
import Mathlib.Data.BitVec
import OriginGame.LuaTable
import OriginGame.Runs

namespace OriginGame.DenseFog

-- Enum.DesenFogSize, and Enum.MapSize counted in it.
def desenFogSize : Rat := 1800
def desenFogLineSize : Int := 400

-- Lua's integers wrap at 64 bits, so bit 63 is one like the others.
abbrev Rule := BitVec 64

structure Row where
  index : Int
  rule : Rule
  deriving DecidableEq, Repr

abbrev Fog := Table Int Row

-- Places on the map may lie between the integers; their arithmetic is exact here.
structure Pos where
  x : Rat
  y : Rat
  deriving DecidableEq

section bits

def denseFogIndexToBitIndex (denseFogIndex : Int) : Nat :=
  let bitIndex := denseFogIndex%64-1
  if bitIndex < 0 then 63 else bitIndex.toNat

-- `math.ceil( denseFogIndex / 64 )`
def denseFogIndexToSaveIndex (denseFogIndex : Int) : Int := (denseFogIndex+63)/64

def mask (denseFogIndex : Int) : Rule := 1#64 <<< denseFogIndexToBitIndex denseFogIndex

def ruleOf (fog : Fog) (saveIndex : Int) : Rule := ((fog.lookup saveIndex).map Row.rule).getD 0

def getSmallFogRule (fog : Fog) (denseFogIndex : Int) : Rule :=
  let saveIndex := denseFogIndexToSaveIndex denseFogIndex
  ruleOf fog (if saveIndex ≤ 0 then 1 else saveIndex) &&& mask denseFogIndex

-- The row of an index, new if it is missing, with its rule changed.
def setRule (fog : Fog) (denseFogIndex : Int) (change : Rule → Rule) : Fog :=
  let saveIndex := denseFogIndexToSaveIndex denseFogIndex
  let row := (fog.lookup saveIndex).getD ⟨saveIndex,0⟩
  fog.insert saveIndex {row with rule:=change row.rule}

-- `rule | ( 1 << bitIndex )`, `rule ~ ( 1 << bitIndex )` and `rule & ~( 1 << bitIndex )`
def openBit (fog : Fog) (denseFogIndex : Int) : Fog := setRule fog denseFogIndex (fun rule => rule ||| mask denseFogIndex)
def toggleBit (fog : Fog) (denseFogIndex : Int) : Fog := setRule fog denseFogIndex (fun rule => rule ^^^ mask denseFogIndex)
def closeBit (fog : Fog) (denseFogIndex : Int) : Fog := setRule fog denseFogIndex (fun rule => rule &&& ~~~mask denseFogIndex)

end bits

section geometry

-- `for v = first, last, step do`
def forLoop (first last step : Rat) : List Rat := (List.range (((last-first)/step).floor+1).toNat).map (fun (k : Nat) => first+k*step)

def forLoopInt (first last : Int) : List Int := (List.range (last-first+1).toNat).map (fun (k : Nat) => first+k)

-- The cells of a square around a place, cut off at the borders of the map.
def allDenseFog (pos : Pos) (radius : Rat) : List Int :=
  let xIndex := max 1 (pos.x/desenFogSize).ceil
  let yIndex := max 0 (pos.y/desenFogSize).floor
  let fogSize := (radius/desenFogSize).ceil
  let leftDesenFogIndex := max 1 (xIndex-fogSize)
  let rightDesenFogIndex := min desenFogLineSize (xIndex+fogSize)
  let bottomDesenFogIndex := max 0 (yIndex-fogSize)
  let topDesenFogIndex := min (desenFogLineSize-1) (yIndex+fogSize)
  (forLoopInt bottomDesenFogIndex topDesenFogIndex).flatMap (fun y =>
    (forLoopInt leftDesenFogIndex rightDesenFogIndex).map (fun x => x+y*desenFogLineSize))

def getDenseFogIndexByPos (pos : Pos) : Int :=
  let cells := pos.x/desenFogSize
  -- A place on a line between two cells belongs to the right one.
  let x := if cells.den = 1 ∧ cells.num < desenFogLineSize then pos.x+1/10 else pos.x
  (x/desenFogSize).ceil+(pos.y/desenFogSize).floor*desenFogLineSize

def see (fog : Fog) (seen : Table Int Rule) (denseFogIndex : Int) : Table Int Rule :=
  match seen.lookup denseFogIndex with
  | some _ => seen
  | none => seen.insert denseFogIndex (getSmallFogRule fog denseFogIndex)

-- One of the loops of getDenseFogWithScoutView, with the last index it computed.
def viewLoop (fog : Fog) (places : List Pos) (before : Int × Table Int Rule) : Int × Table Int Rule :=
  places.foldl (fun before pos =>
    let denseFogIndex := getDenseFogIndexByPos pos
    (denseFogIndex,if 1 ≤ denseFogIndex then see fog before.2 denseFogIndex else before.2)) before

-- The last one looks at the index of the round before.
def viewLastLoop (fog : Fog) (places : List Pos) (before : Int × Table Int Rule) : Int × Table Int Rule :=
  places.foldl (fun before pos =>
    if 1 ≤ before.1 then (getDenseFogIndexByPos pos,see fog before.2 (getDenseFogIndexByPos pos)) else before) before

def quarter (pos : Pos) (right up : Rat) : List Pos :=
  (forLoop pos.x (pos.x+right*desenFogSize) (right*100)).flatMap (fun x =>
    (forLoop pos.y (pos.y+up*desenFogSize) (up*100)).map (fun y => ⟨x,y⟩))

def getDenseFogWithScoutView (pos : Pos) (fog : Fog) : Table Int Rule :=
  let first := viewLoop fog (quarter pos 1 1) (0,∅)
  let second := viewLoop fog (quarter pos (-1) (-1)) first
  let third := viewLoop fog (quarter pos (-1) 1) second
  (viewLastLoop fog (quarter pos 1 (-1)) third).2

def getAllDenseFog (scoutView : Rat) (pos : Pos) (fog : Fog) : Table Int Rule :=
  let denseFogAreaSize := scoutView*desenFogSize
  let denseFogAreaLeft := max 0 ((pos.x/denseFogAreaSize).floor*denseFogAreaSize)
  let denseFogAreaBottom := max 0 ((pos.y/denseFogAreaSize).floor*denseFogAreaSize)
  let desenFogHarfSize := desenFogSize/2
  (forLoop (denseFogAreaLeft+desenFogHarfSize) (denseFogAreaLeft+denseFogAreaSize) desenFogSize).foldl (fun all x =>
    (forLoop (denseFogAreaBottom+desenFogHarfSize) (denseFogAreaBottom+denseFogAreaSize) desenFogSize).foldl (fun all y =>
      let denseFogIndex := (x/desenFogSize).ceil+(y/desenFogSize).floor*desenFogLineSize
      if 1 ≤ denseFogIndex then all.insert denseFogIndex (getSmallFogRule fog denseFogIndex) else all) all) ∅

end geometry

-- A loop over indexes that changes the table and collects indexes for the client.
def sweep (each : Fog → Int → Fog × List Int) : Fog → List Int → Fog × List Int
  | fog,[] => (fog,[])
  | fog,denseFogIndex::rest =>
    let one := each fog denseFogIndex
    let later := sweep each one.1 rest
    (later.1,one.2++later.2)

inductive Push where
  | denseFogOpen (indexes : List Int)
  | preDenseFogOpen (indexes : List Int)
  | denseFogClose (indexes : List Int)
  deriving DecidableEq, Repr

-- What setRole stores, if it is called, and what goes to the client.
structure Change where
  denseFog : Option Fog
  pushed : List Push

section operations

-- `rule == 0` of an index that is in the table.
def unopened (rules : Table Int Rule) (denseFogIndex : Int) : Bool := rules.lookup denseFogIndex == some 0

def scoutEach (allDenseFogIndex : Table Int Rule) (fog : Fog) (index : Int) : Fog × List Int :=
  let saveIndex := denseFogIndexToSaveIndex index
  if unopened allDenseFogIndex index ∧ 1 ≤ index ∧ 1 ≤ saveIndex ∧ saveIndex ≤ 2500 then (toggleBit fog index,[index]) else (fog,[])

def countUnopened (rules : Table Int Rule) : Nat := (rules.entries.filter (fun e => e.2 == 0)).length

structure Scouted where
  change : Change
  denseFogCount : Nat
  targetDenseFogInfo : Option (Table Int Rule)

def scoutsMove (fog : Fog) (pos : Pos) (targetDenseFogInfo : Option (Table Int Rule)) (order : Order Int) : Scouted :=
  let allDenseFogIndex := getDenseFogWithScoutView pos fog
  let swept := sweep (scoutEach allDenseFogIndex) fog (order.visit allDenseFogIndex.keys)
  let target := targetDenseFogInfo.map (fun rules => rules.mapKeyed (fun index rule => if index ∈ swept.2 then 1 else rule))
  let rawDenseFogCount := (targetDenseFogInfo.map countUnopened).getD 0
  ⟨if swept.2.isEmpty then ⟨none,[]⟩ else ⟨some swept.1,[.denseFogOpen swept.2]⟩,
    if 0 < rawDenseFogCount then (target.map countUnopened).getD 0 else 0,target⟩

-- The index is for the client before its row is looked at.
def areaEach (allDesenFog : Table Int Rule) (fog : Fog) (denseIndex : Int) : Fog × List Int :=
  if unopened allDesenFog denseIndex ∧ 1 ≤ denseIndex then
    (if denseFogIndexToSaveIndex denseIndex ≤ 2500 then toggleBit fog denseIndex else fog,[denseIndex])
  else (fog,[])

def openAreaDenseFog (fog : Fog) (allDesenFog : Table Int Rule) : Change :=
  let swept := sweep (areaEach allDesenFog) fog allDesenFog.keys
  if swept.2.isEmpty then ⟨none,[]⟩ else ⟨some swept.1,[.denseFogOpen swept.2]⟩

def nearEach (fog : Fog) (denseFogIndex : Int) : Fog × List Int :=
  if getSmallFogRule fog denseFogIndex = 0 then
    (if denseFogIndexToSaveIndex denseFogIndex ≤ 2500 then openBit fog denseFogIndex else fog,[denseFogIndex])
  else (fog,[])

-- The indexes of the area around a place, in the scale of the config's view range.
def nearArea (fog : Fog) (pos : Pos) (viewRange : Rat) : List Int := (getAllDenseFog (viewRange*2*100/desenFogSize) pos fog).keys

def openNearDenseFog (fog : Fog) (denseFogOpenFlag : Bool) (pos : Option Pos) (viewRange : Option Rat) (order : Order Int) : Change :=
  match denseFogOpenFlag,pos,viewRange with
  | false,some pos,some viewRange =>
    let swept := sweep nearEach fog (order.visit (nearArea fog pos viewRange))
    if swept.2.isEmpty then ⟨none,[]⟩ else ⟨some swept.1,[.preDenseFogOpen swept.2]⟩
  | _,_,_ => ⟨none,[]⟩

def openEach (fog : Fog) (denseFogIndex : Int) : Fog × List Int :=
  let saveIndex := denseFogIndexToSaveIndex denseFogIndex
  if 1 ≤ saveIndex ∧ saveIndex ≤ 2500 then
    (openBit fog denseFogIndex,if getSmallFogRule fog denseFogIndex = 0 then [denseFogIndex] else [])
  else (fog,[])

def openSquare (fog : Fog) (pos : Pos) (radius : Rat) : Fog × List Int := sweep openEach fog (allDenseFog pos radius)

def openDenseFogInPos (fog : Fog) (pos : Pos) (radius : Rat) (noSync : Bool) : Change :=
  let opened := openSquare fog pos radius
  if opened.2.isEmpty then ⟨none,[]⟩ else ⟨some opened.1,if noSync then [] else [.denseFogOpen opened.2]⟩

def closeEach (fog : Fog) (denseFogIndex : Int) : Fog × List Int :=
  match fog.lookup (denseFogIndexToSaveIndex denseFogIndex) with
  | some _ => if getSmallFogRule fog denseFogIndex ≠ 0 then (closeBit fog denseFogIndex,[denseFogIndex]) else (fog,[])
  | none => (fog,[])

def closeSquare (fog : Fog) (pos : Pos) (radius : Rat) : Fog × List Int := sweep closeEach fog (allDenseFog pos radius)

-- The city of the role is not covered: what opens around it again is no news.
def citySquare (rolePos : Pos) : List Int := allDenseFog rolePos (2*desenFogSize)

def closeNews (closed opened : List Int) : List Int := opened.foldl List.erase closed

-- The two setRole calls of closeDenseFogInPos one after the other.
def closeDenseFogInPos (fog : Fog) (pos : Pos) (radius : Rat) (rolePos : Pos) : Change :=
  let closed := closeSquare fog pos radius
  let reopened := openSquare closed.1 rolePos (2*desenFogSize)
  ⟨some ((openDenseFogInPos closed.1 rolePos (2*desenFogSize) true).denseFog.getD closed.1),
    [.denseFogClose (closeNews closed.2 reopened.2)]⟩

end operations

-- A call, with what its other reads return.
inductive Op where
  | scoutsMove (pos : Pos) (targetDenseFogInfo : Option (Table Int Rule)) (order : Order Int)
  | openAreaDenseFog (allDesenFog : Table Int Rule)
  | openNearDenseFog (denseFogOpenFlag : Bool) (pos : Option Pos) (viewRange : Option Rat) (order : Order Int)
  | openDenseFogInPos (pos : Pos) (radius : Rat) (noSync : Bool)
  | closeDenseFogInPos (pos : Pos) (radius : Rat) (rolePos : Pos)

-- A call that runs alone.
def runOp (fog : Fog) : Op → Change
  | .scoutsMove pos target order => (scoutsMove fog pos target order).change
  | .openAreaDenseFog allDesenFog => openAreaDenseFog fog allDesenFog
  | .openNearDenseFog flag pos viewRange order => openNearDenseFog fog flag pos viewRange order
  | .openDenseFogInPos pos radius noSync => openDenseFogInPos fog pos radius noSync
  | .closeDenseFogInPos pos radius rolePos => closeDenseFogInPos fog pos radius rolePos

end OriginGame.DenseFog
