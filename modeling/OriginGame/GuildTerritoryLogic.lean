import OriginGame.Border
import OriginGame.NestedTable
import OriginGame.AStarMgr

namespace OriginGame.GuildTerritoryLogic

-- s_Config: whole tiles cover the map.
structure Config where
  kingdomMapLength : Nat
  kingdomMapWidth : Nat
  territorySizeMin : Nat
  size_pos : 0 < territorySizeMin
  length_pos : 0 < kingdomMapLength
  width_pos : 0 < kingdomMapWidth
  length_dvd : territorySizeMin ∣ kingdomMapLength
  width_dvd : territorySizeMin ∣ kingdomMapWidth

namespace Config

def xSum (c : Config) : Nat := c.kingdomMapLength / c.territorySizeMin

def ySum (c : Config) : Nat := c.kingdomMapWidth / c.territorySizeMin

end Config

-- Enum.MapPosMultiple
def mapPosMultiple : Nat := 100

-- `a % b` of Lua's numbers.
def rem (a b : ℚ) : ℚ := a-b*⌊a/b⌋

def getPosTerritoryId (c : Config) (pos : ℚ × ℚ) (noMulti : Bool) : Int :=
  let posMultiple : ℚ := if noMulti then 1 else mapPosMultiple
  let xNum := ⌈pos.1/c.territorySizeMin/posMultiple⌉
  let xNum := if xNum = 0 then 1 else xNum
  let yNum := ⌊pos.2/c.territorySizeMin/posMultiple⌋
  let yNum := if yNum ≠ 0 ∧ rem pos.2 (c.territorySizeMin*posMultiple) = 0 then yNum-1 else yNum
  c.xSum*yNum+xNum

section blocks
variable (c : Config)

def getMaxTerritoryId : Int := c.xSum*c.ySum

-- `math.ceil( territoryId / xSum )`
def rowOf (territoryId : Int) : Int := -((-territoryId) / c.xSum)

-- How often `for i = 1, territoryNum` runs; none raises.
def territoryNum (territorySize : Nat) : Option Nat :=
  if c.territorySizeMin ∣ territorySize then some (((territorySize / c.territorySizeMin : Nat)-1 : Int) / 2).toNat else none

def besideIds (territoryId : Int) (i : Nat) : List Int :=
  (if rowOf c (territoryId-i) = rowOf c territoryId then [territoryId-i] else [])++
    (if rowOf c (territoryId+i) = rowOf c territoryId then [territoryId+i] else [])

def columnIds (id : Int) (i : Nat) : List Int :=
  (if id+c.xSum*i < getMaxTerritoryId c then [id+c.xSum*i] else [])++(if 0 < id-c.xSum*i then [id-c.xSum*i] else [])

def getPosTerritoryIds (pos : ℚ × ℚ) (territorySize : Nat) : Option (List Int) := do
  let num ← territoryNum c territorySize
  let territoryId := getPosTerritoryId c pos false
  let steps := (List.range num).map (·+1)
  let xTerritoryIds := territoryId::steps.flatMap (besideIds c territoryId)
  return xTerritoryIds.flatMap (fun id => id::steps.flatMap (columnIds c id))

def getAroundTerritoryIds (territoryId : Int) : Finset Int :=
  let above := if territoryId+c.xSum < getMaxTerritoryId c then {territoryId+c.xSum} else ∅
  let below := if territoryId-c.xSum > 0 then {territoryId-c.xSum} else ∅
  let left := if rowOf c (territoryId-1) = rowOf c territoryId then {territoryId-1} else ∅
  let right := if rowOf c (territoryId+1) = rowOf c territoryId then {territoryId+1} else ∅
  above ∪ below ∪ left ∪ right

theorem columns_pos : 0 < c.xSum := Nat.div_pos (Nat.le_of_dvd c.length_pos c.length_dvd) c.size_pos

-- The map of the searches, of which territoryIdToSearchMapPos gives the coordinates.
def searchMap : Territory.SearchMap := ⟨c.xSum,c.ySum,columns_pos c⟩

end blocks

section lines

abbrev Pos := Int × Int

structure Vertex where
  num : Nat
  use : Bool
  deriving DecidableEq, Repr

abbrev TerritoryPos := NestedTable Int Int Vertex

-- The keys of `_territoryIds`.
abbrev Territories := Table Int Unit

-- `num` goes up and `use` is cleared.
def addVertex (territoryPos : TerritoryPos) (pos : Pos) : TerritoryPos :=
  territoryPos.put pos.1 pos.2 ⟨((territoryPos.find pos.1 pos.2).map Vertex.num).getD 0+1,false⟩

variable (c : Config)

-- From the lower left one on, against the clock.
def vertexPoses (width territoryId : Int) : List Pos :=
  let size : Int := c.territorySizeMin
  let xPos := (territoryId % width-1)*size
  let yPos := territoryId / width*size
  [(xPos,yPos),(xPos+size,yPos),(xPos+size,yPos+size),(xPos,yPos+size)]

def getAllTerritoryVertexPoses (order : Order Int) (territoryIds : Territories) (width : Int) : TerritoryPos :=
  (order.visit territoryIds.keys).foldl (fun territoryPos territoryId => (vertexPoses c width territoryId).foldl addVertex territoryPos) ∅

def isMapSidePos (pos : Pos) : Bool := pos.1 == 0 || pos.1 == c.kingdomMapLength || pos.2 == 0 || pos.2 == c.kingdomMapWidth

-- The directions 1 to 4 are left, up, right and down.
def getTerritoryNextPos (pos : Pos) (length : Int) : Direction → Pos
  | .left => (pos.1-length,pos.2)
  | .up => (pos.1,pos.2+length)
  | .right => (pos.1+length,pos.2)
  | .down => (pos.1,pos.2-length)

def posId (pos : Pos) : Int := getPosTerritoryId c (pos.1,pos.2) true

-- The line has territoryId on its one side and, inside the map, `beside` on the other.
def separates (territoryIds : Territories) (pos nextPos : Pos) (territoryId beside : Int) : Bool :=
  if isMapSidePos c pos && isMapSidePos c nextPos then decide (territoryId ∈ territoryIds)
  else (decide (territoryId ∈ territoryIds) && !decide (beside ∈ territoryIds)) || (!decide (territoryId ∈ territoryIds) && decide (beside ∈ territoryIds))

def isGuildTerritoryLine (territoryIds : Territories) (width : Int) (pos nextPos : Pos) : Direction → Bool
  | .left => separates c territoryIds pos nextPos (posId c pos) (posId c pos+width)
  | .up => separates c territoryIds pos nextPos (posId c nextPos) (posId c nextPos+1)
  | .right => separates c territoryIds pos nextPos (posId c nextPos) (posId c nextPos+width)
  | .down => separates c territoryIds pos nextPos (posId c pos) (posId c pos+1)

-- The orders of `pairs` in the table of the columns and in each column.
structure Traversal where
  xPoses : Order Int
  yPoses : Int → Order Int

def startPos (traversal : Traversal) (territoryPos : TerritoryPos) : Option Pos :=
  (traversal.xPoses.visit territoryPos.keys).findSome? (fun xPos => (territoryPos.lookup xPos).bind (fun posInfo =>
    ((traversal.yPoses xPos).visit posInfo.keys).findSome? (fun yPos => (posInfo.lookup yPos).bind (fun useInfo =>
      if useInfo.num < 4 ∧ useInfo.use = false then some (xPos,yPos) else none))))

def setUse (territoryPos : TerritoryPos) (pos : Pos) : TerritoryPos := territoryPos.adjust pos.1 pos.2 (fun useInfo => {useInfo with use:=true})

-- The variables of the loop of calculateTerritoryLine.
structure Walk where
  territoryPos : TerritoryPos
  direction : Direction
  pos : Pos
  findDirection : Nat
  lineFirstPos : Pos
  lineSecondPos : Option Pos
  line : List Pos

-- The three points have a coordinate in common.
def inLine (first second third : Pos) : Bool := (first.1 == second.1 && first.1 == third.1) || (first.2 == second.2 && first.2 == third.2)

def blocked (territoryPos : TerritoryPos) (startPos nextPos : Pos) : Bool :=
  match territoryPos.find nextPos.1 nextPos.2 with
  | none => true
  | some useInfo => 4 ≤ useInfo.num || nextPos == startPos

namespace Walk

def begins (territoryPos : TerritoryPos) (startPos : Pos) : Walk := ⟨setUse territoryPos startPos,.left,startPos,0,startPos,none,[startPos]⟩

def turn (w : Walk) : Walk := {w with direction:=w.direction.clockwise, findDirection:=w.findDirection+1}

def advance (w : Walk) (nextPos : Pos) : Walk :=
  let goesOn := match w.lineSecondPos with
    | none => false
    | some second => inLine w.lineFirstPos second nextPos
  { territoryPos := setUse w.territoryPos nextPos
    direction := w.direction.counter
    pos := nextPos
    findDirection := 1
    lineFirstPos := if goesOn then w.lineFirstPos else w.lineSecondPos.getD w.lineFirstPos
    lineSecondPos := some nextPos
    line := (if goesOn then w.line.dropLast else w.line)++[nextPos] }

-- One turn of the loop.
def search (territoryIds : Territories) (width : Int) (startPos : Pos) (w : Walk) : Walk :=
  let nextPos := getTerritoryNextPos w.pos c.territorySizeMin w.direction
  if blocked w.territoryPos startPos nextPos then w.turn
  else if isGuildTerritoryLine c territoryIds width w.pos nextPos w.direction then w.advance nextPos
  else w.turn

-- The points of the line, without the last or the first where they are in the middle of a side;
-- none raises.
def finish (startPos : Pos) (w : Walk) : Option (List Pos) :=
  let line := match w.lineSecondPos with
    | none => w.line
    | some second => if inLine w.lineFirstPos second startPos then w.line.dropLast else w.line
  match line with
  | first::second::rest => some (if inLine first second (rest.getLast?.getD second) then second::rest else line)
  | _ => none

end Walk

-- What a call comes to in so many turns of its loops.
inductive Outcome (α : Type) where
  | unfinished
  | raised
  | returned (value : α)
  deriving DecidableEq, Repr

def walkOn (territoryIds : Territories) (width : Int) (startPos : Pos) : Nat → Walk → Option Walk
  | 0,_ => none
  | fuel+1,w =>
    let w := w.search c territoryIds width startPos
    if 4 ≤ w.findDirection then some w else walkOn territoryIds width startPos fuel w

def calculateTerritoryLine (fuel : Nat) (traversal : Traversal) (territoryIds : Territories) (width : Int) (territoryPos : TerritoryPos) :
    Outcome (List Pos × TerritoryPos) :=
  match startPos traversal territoryPos with
  | none => .returned ([],territoryPos)
  | some startPos =>
    match walkOn c territoryIds width startPos fuel (.begins territoryPos startPos) with
    | none => .unfinished
    | some w =>
      match w.finish startPos with
      | none => .raised
      | some line => .returned (line,w.territoryPos)

-- Enum.MapTerritoryLineDirection
inductive LineDirection where
  | LEFT
  | RIGHT
  deriving DecidableEq, Repr

def getLineDirection (startPos endPos : Pos) (territoryIds : Territories) : Option LineDirection :=
  if startPos.1 = endPos.1 then
    if startPos.1 = 0 then some (if startPos.2 < endPos.2 then .RIGHT else .LEFT)
    else if startPos.1 = c.kingdomMapLength then some (if startPos.2 < endPos.2 then .LEFT else .RIGHT)
    else if startPos.2 < endPos.2 then some (if posId c endPos ∈ territoryIds then .LEFT else .RIGHT)
    else some (if posId c startPos ∈ territoryIds then .RIGHT else .LEFT)
  else if startPos.2 = endPos.2 then
    if startPos.2 = 0 then some (if startPos.1 < endPos.1 then .LEFT else .RIGHT)
    else if startPos.2 = c.kingdomMapWidth then some (if startPos.1 < endPos.1 then .RIGHT else .LEFT)
    else if startPos.1 < endPos.1 then some (if posId c endPos ∈ territoryIds then .RIGHT else .LEFT)
    else some (if posId c startPos ∈ territoryIds then .LEFT else .RIGHT)
  else none

structure Line where
  linePos : List Pos
  direction : Option LineDirection
  deriving DecidableEq, Repr

-- `while not table.empty( territoryPos )`
def linesFrom (walks : Nat) (traversal : Traversal) (territoryIds : Territories) : Nat → TerritoryPos → List Line → Outcome (List Line)
  | 0,_,_ => .unfinished
  | fuel+1,territoryPos,lines =>
    if territoryPos.keys = [] then .returned lines
    else
      match calculateTerritoryLine c walks traversal territoryIds c.xSum territoryPos with
      | .unfinished => .unfinished
      | .raised => .raised
      | .returned ([],_) => .returned lines
      | .returned ([_],_) => .raised
      | .returned (first::second::rest,territoryPos) =>
        linesFrom walks traversal territoryIds fuel territoryPos
          (lines++[⟨first::second::rest,getLineDirection c first second territoryIds⟩])

def refreshTerritoryLines (fuel : Nat) (order : Order Int) (traversal : Traversal) (territoryIds : Territories) : Outcome (List Line) :=
  linesFrom c fuel traversal territoryIds fuel (getAllTerritoryVertexPoses c order territoryIds c.xSum) []

end lines
end OriginGame.GuildTerritoryLogic
