namespace OriginGame

-- Enum.RoleType, in the order of its codes 0..43.
inductive RoleType where
  | role | army | monster | city
  | stone | farmland | wood | gold | denar
  | scouts | village | cave
  | guildCenterFortress | guildFortressFirst | guildFortressSecond | guildFlag
  | guildFood | guildWood | guildStone | guildGold
  | guildFoodCenter | guildWoodCenter | guildStoneCenter | guildGoldCenter
  | rune | checkpoint | relic | transport | monsterCity | guardHolyLand | expedition
  | sanctuary | altar | shrine | lostTemple
  | checkpoint1 | checkpoint2 | checkpoint3
  | sanctuaryPvp | altarPvp | shrinePvp | lostTemplePvp
  | summonSingleMonster | summonRallyMonster
  deriving DecidableEq, Repr

namespace RoleType

-- The range tests of MapObjectLogic compare these codes.
def code (type : RoleType) : Nat := type.ctorIdx

def checkIsResourceObject (type : RoleType) : Bool :=
  decide (stone.code ≤ type.code) && decide (type.code ≤ denar.code)

def checkIsGuildBuildObject (type : RoleType) : Bool :=
  (decide (guildCenterFortress.code ≤ type.code) && decide (type.code ≤ guildFlag.code)) ||
  (decide (guildFoodCenter.code ≤ type.code) && decide (type.code ≤ guildGoldCenter.code))

def checkIsGuildResourcePointObject (type : RoleType) : Bool :=
  decide (guildFood.code ≤ type.code) && decide (type.code ≤ guildGold.code)

def checkIsHolyLandObject : RoleType → Bool
  | checkpoint | relic | sanctuary | altar | shrine | lostTemple | checkpoint1 | checkpoint2
  | checkpoint3 | sanctuaryPvp | altarPvp | shrinePvp | lostTemplePvp => true
  | _ => false

-- BattleTypeCacle:checkIsGarrisonArmy
def checkIsGarrisonArmy (type : RoleType) : Bool :=
  checkIsGuildBuildObject type ||
  match type with
  | sanctuary | sanctuaryPvp | altar | altarPvp | shrine | shrinePvp | lostTemple | lostTemplePvp
  | checkpoint1 | checkpoint2 | checkpoint3 => true
  | _ => false

end RoleType

-- Enum.ArmyType, in the order of its codes 1..7.
inductive ArmyType where
  | infantry | cavalry | archer | siegeUnit | barbarian | barbarianCity | guardTower
  deriving DecidableEq

end OriginGame
