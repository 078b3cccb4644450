import OriginGame.GuildTerritoryMgr
import OriginGame.Runs

namespace OriginGame.Territory

-- A building's claim to a tile.
structure Claim where
  guildId : GuildId
  buildIndex : BuildIndex
  occupyTime : Int
  deriving DecidableEq, Repr

def Claim.by (claim : Claim) (guildId : GuildId) (buildIndex : BuildIndex) : Bool := claim.guildId == guildId && claim.buildIndex == buildIndex

-- occupyGuildId with occupyBuildIndex, which are set and cleared together.
structure TerritoryInfo where
  occupy : List Claim
  occupied : Option (GuildId × BuildIndex)
  deriving DecidableEq, Repr

-- The tile of a building's position, and whether it is BUILDING.
structure BuildInfo where
  territoryId : TerritoryId
  building : Bool
  deriving DecidableEq, Repr

-- What other services answer within a call.
structure Env where
  getGuildBuild : GuildId → BuildIndex → BuildInfo
  findPath : GuildId → Finset TerritoryId → TerritoryId → Bool

def Env.buildOf (env : Env) (claim : Claim) : BuildInfo := env.getGuildBuild claim.guildId claim.buildIndex

-- TerritoryMgr's tiles, the guilds' tiles and the walkable tiles of their maps.
structure State where
  territories : TerritoryId → Option TerritoryInfo
  guilds : GuildId → GuildTerritory
  walkable : GuildId → Finset TerritoryId

def occupyGuildId (territories : TerritoryId → Option TerritoryInfo) (territoryId : TerritoryId) : Option GuildId :=
  ((territories territoryId).bind TerritoryInfo.occupied).map Prod.fst

section operations

def emptyInfo : TerritoryInfo := ⟨[],none⟩

-- `not occupyGuildId or occupyGuildId <= 0`
def TerritoryInfo.unoccupied (info : TerritoryInfo) : Bool := info.occupied.isNone

-- setWalkable and addGuildTerritory of one guild.
def State.add (env : Env) (s : State) (guildId : GuildId) (territoryIds preOccupyTerritoryIds : List TerritoryId) : State :=
  let walkable := s.walkable guildId ∪ territoryIds.toFinset
  {s with
    walkable:=Function.update s.walkable guildId walkable,
    guilds:=Function.update s.guilds guildId
      ((s.guilds guildId).addGuildTerritory (env.findPath guildId walkable) territoryIds preOccupyTerritoryIds)}

-- setUnwalkable and deleteGuildTerritory of one guild.
def State.delete (s : State) (guildId : GuildId) (territoryIds : List TerritoryId) : State :=
  {s with
    walkable:=Function.update s.walkable guildId (s.walkable guildId \ territoryIds.toFinset),
    guilds:=Function.update s.guilds guildId ((s.guilds guildId).deleteGuildTerritory territoryIds)}

-- A place is looked for in the order of time and guild, but table.insert gets none: the
-- claim goes to the end.
def addClaim (claim : Claim) (territories : TerritoryId → Option TerritoryInfo) (territoryId : TerritoryId) :
    TerritoryId → Option TerritoryInfo :=
  let info := (territories territoryId).getD emptyInfo
  Function.update territories territoryId (some {info with occupy:=info.occupy++[claim]})

-- Whether another guild stands against a building on the tile.
def refuses (territories : TerritoryId → Option TerritoryInfo) (guildId : GuildId) (territoryId : TerritoryId) : Bool :=
  match territories territoryId with
  | none => false
  | some info =>
    if info.unoccupied then info.occupy.head?.any (fun claim => claim.guildId != guildId)
    else info.occupied.any (fun owner => owner.1 != guildId)

-- A tile whose first claim the new one then is, is pre-occupied.
def claimOne (claim : Claim) (acc : (TerritoryId → Option TerritoryInfo) × List TerritoryId) (territoryId : TerritoryId) :
    (TerritoryId → Option TerritoryInfo) × List TerritoryId :=
  let territories := addClaim claim acc.1 territoryId
  let leads := ((territories territoryId).bind (fun info => info.occupy.head?)).any (fun first => first.by claim.guildId claim.buildIndex)
  (territories,if leads then acc.2++[territoryId] else acc.2)

def preOccupyTerritory (env : Env) (s : State) (claim : Claim) (territoryIds : List TerritoryId) (territoryId : Option TerritoryId)
    (isInit : Bool) : State × Bool :=
  if territoryId.any (refuses s.territories claim.guildId) then (s,false)
  else
    let claimed := territoryIds.foldl (claimOne claim) (s.territories,[])
    let left := {s with territories:=claimed.1}
    (if isInit then left else left.add env claim.guildId [] claimed.2,true)

-- The centre of the building, or a tile whose first claim is the guild's.
def takes (territories : TerritoryId → Option TerritoryInfo) (guildId : GuildId) (centerTerritoryId : Option TerritoryId) (territoryId : TerritoryId) :
    Bool :=
  centerTerritoryId == some territoryId ||
    ((territories territoryId).bind (fun info => info.occupy.head?)).any (fun first => first.guildId == guildId)

def occupyOne (guildId : GuildId) (buildIndex : BuildIndex) (centerTerritoryId : Option TerritoryId)
    (territories : TerritoryId → Option TerritoryInfo) (territoryId : TerritoryId) : TerritoryId → Option TerritoryInfo :=
  let info := (territories territoryId).getD emptyInfo
  Function.update territories territoryId
    (some (if takes territories guildId centerTerritoryId territoryId then {info with occupied:=some (guildId,buildIndex)} else info))

def occupyTerritory (env : Env) (s : State) (claim : Claim) (territoryIds : List TerritoryId) (isInit : Bool)
    (centerTerritoryId : Option TerritoryId) : State :=
  if isInit then {s with territories:=territoryIds.foldl (addClaim claim) s.territories}
  else
    let occupyTerritories := territoryIds.filter (takes s.territories claim.guildId centerTerritoryId)
    let taken := {s with territories:=territoryIds.foldl (occupyOne claim.guildId claim.buildIndex centerTerritoryId) s.territories}
    if occupyTerritories.isEmpty then taken else taken.add env claim.guildId occupyTerritories []

-- What becomes of a tile that a building gives up: nothing, nobody's, a guild's, or claimed
-- by a guild that is still building.
inductive Verdict where
  | kept
  | free
  | occupy (guildId : GuildId)
  | preOccupy (guildId : GuildId)
  deriving DecidableEq, Repr

-- The last claim of the building goes.
def dropLast (guildId : GuildId) (buildIndex : BuildIndex) (occupy : List Claim) : List Claim :=
  (occupy.reverse.eraseP (fun claim => claim.by guildId buildIndex)).reverse

-- The last other building that stands on the tile, else the first claim that is left.
def successor (env : Env) (guildId : GuildId) (buildIndex : BuildIndex) (territoryId : TerritoryId) (occupy : List Claim) : Option Claim :=
  ((occupy.filter (fun claim => !claim.by guildId buildIndex && (env.buildOf claim).territoryId == territoryId)).getLast?).or
    (dropLast guildId buildIndex occupy).head?

def release (env : Env) (guildId : GuildId) (buildIndex : BuildIndex) (territoryId : TerritoryId) (info : TerritoryInfo) : TerritoryInfo × Verdict :=
  if info.unoccupied || info.occupied == some (guildId,buildIndex) then
    let left := dropLast guildId buildIndex info.occupy
    match successor env guildId buildIndex territoryId info.occupy with
    | none => (⟨left,none⟩,.free)
    | some claim =>
      if (env.buildOf claim).building then
        match left.find? (fun other => other.guildId == claim.guildId && other.buildIndex != claim.buildIndex && !(env.buildOf other).building) with
        | some other => (⟨left,some (other.guildId,other.buildIndex)⟩,.occupy other.guildId)
        | none => (⟨left,none⟩,.preOccupy claim.guildId)
      else (⟨left,some (claim.guildId,claim.buildIndex)⟩,.occupy claim.guildId)
  else ({info with occupy:=info.occupy.eraseP (fun claim => claim.by guildId buildIndex)},.kept)

-- The loop of delTerritories over the tiles.
def releaseAll (env : Env) (guildId : GuildId) (buildIndex : BuildIndex) :
    (TerritoryId → Option TerritoryInfo) → List TerritoryId → (TerritoryId → Option TerritoryInfo) × List (TerritoryId × Verdict)
  | territories,[] => (territories,[])
  | territories,territoryId::rest =>
    match territories territoryId with
    | none => releaseAll env guildId buildIndex territories rest
    | some info =>
      let one := release env guildId buildIndex territoryId info
      let later := releaseAll env guildId buildIndex (Function.update territories territoryId (some one.1)) rest
      (later.1,(territoryId,one.2)::later.2)

-- The tiles the guild loses.
def lost (guildId : GuildId) (verdicts : List (TerritoryId × Verdict)) : List TerritoryId :=
  verdicts.filterMap (fun entry => match entry.2 with
    | .kept => none
    | .free => some entry.1
    | .occupy other => if other = guildId then none else some entry.1
    | .preOccupy _ => some entry.1)

def occupiedBy (guildId : GuildId) (verdicts : List (TerritoryId × Verdict)) : List TerritoryId :=
  verdicts.filterMap (fun entry => if entry.2 = .occupy guildId then some entry.1 else none)

def preOccupiedBy (guildId : GuildId) (verdicts : List (TerritoryId × Verdict)) : List TerritoryId :=
  verdicts.filterMap (fun entry => if entry.2 = .preOccupy guildId then some entry.1 else none)

def gainers (verdicts : List (TerritoryId × Verdict)) : List GuildId :=
  (verdicts.filterMap (fun entry => match entry.2 with
    | .occupy guildId => some guildId
    | .preOccupy guildId => some guildId
    | _ => none)).dedup

def delTerritories (env : Env) (s : State) (guildId : GuildId) (buildIndex : BuildIndex) (territoryIds : List TerritoryId)
    (disbandGuild : Bool) (order : Order GuildId) : State :=
  let released := releaseAll env guildId buildIndex s.territories territoryIds
  let left := {s with territories:=released.1}.delete guildId (lost guildId released.2)
  (order.visit (gainers released.2)).foldl (fun s id =>
    if disbandGuild ∧ id = guildId then s else s.add env id (occupiedBy id released.2) (preOccupiedBy id released.2)) left

-- By time of the claim, then by guild.
def earlier (claim other : Claim) : Bool :=
  if claim.occupyTime = other.occupyTime then claim.guildId < other.guildId else claim.occupyTime < other.occupyTime

-- The first building that stands on the tile, if it is not of the first claim's guild.
def chooseClaim (env : Env) (territoryId : TerritoryId) (first : Claim) (occupy : List Claim) : Claim :=
  match occupy.find? (fun claim => (env.buildOf claim).territoryId == territoryId) with
  | some standing => if standing.guildId = first.guildId then first else standing
  | none => first

-- A building that is being built gives way to one of the guild's that is not; without one, to the
-- index of the first claim, whatever its guild.
def chooseBuild (env : Env) (first chosen : Claim) (occupy : List Claim) : BuildIndex :=
  if (env.buildOf chosen).building then
    ((occupy.find? (fun other => other.guildId == chosen.guildId && !(env.buildOf other).building)).map Claim.buildIndex).getD first.buildIndex
  else chosen.buildIndex

def sortOne (env : Env) (sorting : Sorting earlier) (territoryId : TerritoryId) (info : TerritoryInfo) : TerritoryInfo × Verdict :=
  let occupy := sorting.sort info.occupy
  match occupy with
  | [] => ({info with occupy:=occupy},.kept)
  | first::_ =>
    let chosen := chooseClaim env territoryId first occupy
    let buildIndex := chooseBuild env first chosen occupy
    if (env.getGuildBuild chosen.guildId buildIndex).building then ({info with occupy:=occupy},.preOccupy chosen.guildId)
    else (⟨occupy,some (chosen.guildId,buildIndex)⟩,.occupy chosen.guildId)

-- `visited` are the tiles in the order of `pairs`; each is settled for itself.
def sortTerritories (env : Env) (s : State) (sorting : Sorting earlier) (visited : List TerritoryId) (order : Order GuildId) : State :=
  let settled := fun id => (s.territories id).map (sortOne env sorting id)
  let verdicts := visited.filterMap (fun id => (settled id).map (fun one => (id,one.2)))
  (order.visit (gainers verdicts)).foldl (fun s id => s.add env id (occupiedBy id verdicts) (preOccupiedBy id verdicts))
    {s with territories:=fun id => (settled id).map Prod.fst}

-- Whether a tile may be the guild's: nobody has claimed it, the guild owns it, or with `_preOccupy`
-- the guild has a claim of its own building that stands there or no other guild's claim is first.
def offers (env : Env) (territories : TerritoryId → Option TerritoryInfo) (guildId : GuildId) (preOccupy : Bool) (territoryId : TerritoryId) : Bool :=
  match territories territoryId with
  | none => true
  | some info =>
    if info.unoccupied then
      preOccupy && (info.occupy.any (fun claim => claim.guildId == guildId && (env.buildOf claim).territoryId == territoryId) ||
        info.occupy.head?.all (fun first => first.guildId == guildId))
    else info.occupied.any (fun owner => owner.1 == guildId)

def deleteOtherGuildTerritory (env : Env) (s : State) (territoryIds : List TerritoryId) (guildId : GuildId) (preOccupy : Bool) : List TerritoryId :=
  territoryIds.filter (offers env s.territories guildId preOccupy)

end operations

inductive Label where
  | preOccupyTerritory (env : Env) (claim : Claim) (territoryIds : List TerritoryId) (territoryId : Option TerritoryId) (isInit : Bool)
  | occupyTerritory (env : Env) (claim : Claim) (territoryIds : List TerritoryId) (isInit : Bool) (centerTerritoryId : Option TerritoryId)
  | delTerritories (env : Env) (guildId : GuildId) (buildIndex : BuildIndex) (territoryIds : List TerritoryId) (disbandGuild : Bool)
    (order : Order GuildId)

def next (s : State) : Label → State
  | .preOccupyTerritory env claim territoryIds territoryId isInit => (preOccupyTerritory env s claim territoryIds territoryId isInit).1
  | .occupyTerritory env claim territoryIds isInit centerTerritoryId => occupyTerritory env s claim territoryIds isInit centerTerritoryId
  | .delTerritories env guildId buildIndex territoryIds disbandGuild order =>
    delTerritories env s guildId buildIndex territoryIds disbandGuild order

def vacant : State := ⟨fun _ => none,fun _ => .empty,fun _ => ∅⟩

end OriginGame.Territory
