import Mathlib.Data.Finset.Basic
import Mathlib.Data.PNat.Defs
import OriginGame.LuaTable

namespace OriginGame.Territory

abbrev TerritoryId := Int

-- Ids of guilds are positive.
abbrev GuildId := ℕ+
abbrev BuildIndex := Nat

-- Ids that are written as numbers.
scoped instance one_neZero : NeZero (1 : Nat) := ⟨by decide⟩
scoped instance two_neZero : NeZero (2 : Nat) := ⟨by decide⟩

-- The tiles of one guild in GuildTerritoryMgr.
structure GuildTerritory where
  validTerritoryIds : Finset TerritoryId
  invalidTerritoryIds : Finset TerritoryId
  preOccupyTerritoryIds : Finset TerritoryId
  deriving DecidableEq

namespace GuildTerritory

def empty : GuildTerritory := ⟨∅,∅,∅⟩

def held (t : GuildTerritory) : Finset TerritoryId := t.validTerritoryIds ∪ t.invalidTerritoryIds

-- `findPath` answers for the map as it is in the call, no without a fortress.
variable (findPath : TerritoryId → Bool)

-- The order of the tiles does not matter: a check looks at no set.
def checkGuildInvalidTerritory (t : GuildTerritory) : GuildTerritory :=
  {t with
    validTerritoryIds:=t.validTerritoryIds ∪ t.invalidTerritoryIds.filter (fun id => findPath id = true),
    invalidTerritoryIds:=t.invalidTerritoryIds.filter (fun id => findPath id = false)}

def addOne (t : GuildTerritory) (territoryId : TerritoryId) : GuildTerritory :=
  let placed := if findPath territoryId then {t with validTerritoryIds:=insert territoryId t.validTerritoryIds}
    else {t with invalidTerritoryIds:=insert territoryId t.invalidTerritoryIds}
  {placed with preOccupyTerritoryIds:=placed.preOccupyTerritoryIds.erase territoryId}

def preOccupyOne (t : GuildTerritory) (territoryId : TerritoryId) : GuildTerritory :=
  let left := if territoryId ∈ t.validTerritoryIds then {t with validTerritoryIds:=t.validTerritoryIds.erase territoryId}
    else if territoryId ∈ t.invalidTerritoryIds then {t with invalidTerritoryIds:=t.invalidTerritoryIds.erase territoryId}
    else t
  {left with preOccupyTerritoryIds:=insert territoryId left.preOccupyTerritoryIds}

def addGuildTerritory (t : GuildTerritory) (territoryIds preOccupyTerritoryIds : List TerritoryId) : GuildTerritory :=
  let added := territoryIds.foldl (addOne findPath) t
  let checked := if territoryIds.any findPath then checkGuildInvalidTerritory findPath added else added
  preOccupyTerritoryIds.foldl preOccupyOne checked

def statusOne (t : GuildTerritory) (territoryId : TerritoryId) : GuildTerritory :=
  if findPath territoryId then
    if territoryId ∈ t.invalidTerritoryIds then
      {t with
        invalidTerritoryIds:=t.invalidTerritoryIds.erase territoryId, validTerritoryIds:=insert territoryId t.validTerritoryIds}
    else t
  else if territoryId ∈ t.validTerritoryIds then
    {t with
      validTerritoryIds:=t.validTerritoryIds.erase territoryId, invalidTerritoryIds:=insert territoryId t.invalidTerritoryIds}
  else t

def guildTerritoryStatusChange (t : GuildTerritory) (territoryIds : List TerritoryId) : GuildTerritory :=
  territoryIds.foldl (statusOne findPath) t

-- A tile goes from the first set that has it.
def deleteOne (t : GuildTerritory) (territoryId : TerritoryId) : GuildTerritory :=
  if territoryId ∈ t.validTerritoryIds then {t with validTerritoryIds:=t.validTerritoryIds.erase territoryId}
  else if territoryId ∈ t.invalidTerritoryIds then {t with invalidTerritoryIds:=t.invalidTerritoryIds.erase territoryId}
  else {t with preOccupyTerritoryIds:=t.preOccupyTerritoryIds.erase territoryId}

def deleteGuildTerritory (t : GuildTerritory) (territoryIds : List TerritoryId) : GuildTerritory := territoryIds.foldl deleteOne t

end GuildTerritory
end OriginGame.Territory
