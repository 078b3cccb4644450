import OriginGame.Gains
import OriginGame.LuaTable
import OriginGame.Runs

namespace OriginGame.RoleCacle
open Gains (total gainAll)

-- The names of AttrDef: two that the source treats apart, the others numbered.
inductive Attr where
  | scoutSpeed | arenaDayFreeNum
  | other (number : Nat)
  deriving DecidableEq, Repr

-- Every role has all of them.
abbrev RoleAttr := Attr → Int

-- A row of a config table by its attribute columns, which may be missing.
abbrev Row := Attr → Option Int

inductive BuildingType where
  | townhall | wall | guardtower | barracks | archeryrange | stable | siege | collage | hospital | castle | scoutCamp | bussiness
  | other (number : Nat)
  deriving DecidableEq, Repr

structure Building where
  type : BuildingType
  level : Nat
  deriving DecidableEq, Repr

-- `studyId` is the STUDY part of s_ZeroEmpty; a study has buffType with buffData.
structure Config where
  s_BuildingTownCenter : Nat → Option Row
  s_BuildingCityWall : Nat → Option Row
  s_BuildingGuardTower : Nat → Option Row
  s_BuildingBarracks : Nat → Option Row
  s_BuildingArcheryrange : Nat → Option Row
  s_BuildingStable : Nat → Option Row
  s_BuildingSiegeWorkshop : Nat → Option Row
  s_BuildingCampus : Nat → Option Row
  s_BuildingHospital : Nat → Option Row
  s_BuildingCastle : Nat → Option Row
  s_BuildingScoutcamp : Nat → Option Row
  s_BuildingFreight : Nat → Option Row
  studyId : Nat → Nat → Option Nat
  s_Study : Nat → Option (List (Attr × Int))
  s_VipAtt : Nat → Option Row
  s_AllianceOfficially : Nat → List (Attr × Int)
  s_CityBuff : Nat → List (Attr × Int)
  s_Civilization : Nat → List (Attr × Int)
  scoutSpeed : Int

-- A member's office, and what the guild's technologies and holy lands give.
structure Membership where
  officer : Option Nat
  guildAttr : List (Attr × Int)
  deriving DecidableEq, Repr

structure Role where
  buildings : Table Nat Building
  technologies : Table Nat Nat
  vipLv : Nat
  guild : Option Membership
  cityBuff : List Nat
  country : Nat
  attr : RoleAttr

section cacle
variable (cfg : Config)

-- The table of a type that gives attributes.
def buildingConfig : BuildingType → Option (Nat → Option Row)
  | .townhall => some cfg.s_BuildingTownCenter
  | .wall => some cfg.s_BuildingCityWall
  | .guardtower => some cfg.s_BuildingGuardTower
  | .barracks => some cfg.s_BuildingBarracks
  | .archeryrange => some cfg.s_BuildingArcheryrange
  | .stable => some cfg.s_BuildingStable
  | .siege => some cfg.s_BuildingSiegeWorkshop
  | .collage => some cfg.s_BuildingCampus
  | .hospital => some cfg.s_BuildingHospital
  | .castle => some cfg.s_BuildingCastle
  | .scoutCamp => some cfg.s_BuildingScoutcamp
  | .bussiness => some cfg.s_BuildingFreight
  | .other _ => none

-- `for name in pairs(attr) do if row[name] then`
def addRow (attr : RoleAttr) (row : Row) : RoleAttr := fun name => attr name+(row name).getD 0

-- The same with what the row before gave taken off.
def changeRow (attr : RoleAttr) (row : Row) (before : Option Row) : RoleAttr := fun name =>
  match row name with
  | some n => attr name+(n-(before.bind (fun row => row name)).getD 0)
  | none => attr name

-- A row that is missing is an error.
def cacleOneBuild (attr : RoleAttr) (buildingInfo : Building) : Option RoleAttr :=
  match buildingConfig cfg buildingInfo.type with
  | some table => if 0 < buildingInfo.level then (table buildingInfo.level).map (addRow attr) else some attr
  | none => some attr

def cacleBuildAttr (attr : RoleAttr) (buildings : Table Nat Building) : Option RoleAttr :=
  buildings.entries.foldlM (fun attr e => cacleOneBuild cfg attr e.2) attr

def studyOf (technologyType level : Nat) : List (Attr × Int) := ((cfg.studyId technologyType level).bind cfg.s_Study).getD []

def cacleTechnologyAttr (attr : RoleAttr) (technologies : Table Nat Nat) : RoleAttr :=
  technologies.entries.foldl (fun attr e => gainAll attr (studyOf cfg e.1 e.2)) attr

def cacleCityBuffAttr (attr : RoleAttr) (cityBuff : List Nat) : RoleAttr :=
  cityBuff.foldl (fun attr buffId => gainAll attr (cfg.s_CityBuff buffId)) attr

-- The study before is an error if its id is missing, and nothing if its row is.
def technologyAttrChange (attr : RoleAttr) (technologyType level : Nat) : Option RoleAttr :=
  match (cfg.studyId technologyType level).bind cfg.s_Study with
  | none => none
  | some study =>
    match if 1 < level then (cfg.studyId technologyType (level-1)).map some else some none with
    | none => none
    | some beforeId =>
      let before := (beforeId.bind cfg.s_Study).getD []
      some (study.foldl (fun attr buff => Function.update attr buff.1 (attr buff.1+(buff.2-total before buff.1))) attr)

def vipRow (level : Nat) : Option Row :=
  (cfg.s_VipAtt level).map (fun row name => if name = .arenaDayFreeNum then none else row name)

def vipAttrChange (attr : RoleAttr) (level : Nat) (oldLevel : Option Nat) : RoleAttr :=
  match vipRow cfg level with
  | none => attr
  | some row => changeRow attr row (oldLevel.bind (vipRow cfg))

def buildAttrChange (attr : RoleAttr) (buildInfo : Building) : Option RoleAttr :=
  match buildingConfig cfg buildInfo.type with
  | some table => (table buildInfo.level).map (fun row => changeRow attr row (if 1 < buildInfo.level then table (buildInfo.level-1) else none))
  | none => some attr

def lose (gains : List (Attr × Int)) : List (Attr × Int) := gains.map (fun entry => (entry.1,-entry.2))

def officerGains (officerId : Option Nat) : List (Attr × Int) := (officerId.map cfg.s_AllianceOfficially).getD []

-- Without a new office the guild's list of officers is asked.
def cacleGuildOfficerAttr (attr : RoleAttr) (guild : Option Membership) (oldOfficerId newOfficerId : Option Nat) : RoleAttr :=
  let left := gainAll attr (lose (officerGains cfg oldOfficerId))
  match guild with
  | some membership => gainAll left (officerGains cfg (newOfficerId.or membership.officer))
  | none => left

def newGuildGains (guild : Option Membership) (newGuildAttr : Option (List (Attr × Int))) : List (Attr × Int) :=
  match newGuildAttr with
  | some gains => gains
  | none => (guild.map Membership.guildAttr).getD []

def cacleGuildAttr (attr : RoleAttr) (guild : Option Membership) (oldGuildAttr newGuildAttr : Option (List (Attr × Int))) : RoleAttr :=
  gainAll (gainAll attr (lose (oldGuildAttr.getD []))) (newGuildGains guild newGuildAttr)

def cacleCivilizationAttr (attr : RoleAttr) (country : Nat) : RoleAttr := gainAll attr (cfg.s_Civilization country)

-- The attributes from scratch. The scouts' speed is the config's in the end.
def initRoleAttr (role : Role) : Option RoleAttr :=
  (cacleBuildAttr cfg (fun _ => 0) role.buildings).map (fun built =>
    let studied := cacleTechnologyAttr cfg built role.technologies
    let buffed := cacleCityBuffAttr cfg studied role.cityBuff
    let appointed := cacleGuildOfficerAttr cfg buffed role.guild none none
    let vip := vipAttrChange cfg appointed role.vipLv none
    let allied := cacleGuildAttr vip role.guild none none
    Function.update (cacleCivilizationAttr cfg allied role.country) .scoutSpeed cfg.scoutSpeed)

end cacle

-- The changes of a role; with a guild change comes the guild as it then is.
inductive Label where
  | upGradeBuild (buildingIndex : Nat)
  | awardTechnology (technologyType : Nat)
  | vip (level : Nat)
  | officer (guild : Option Membership) (oldOfficerId newOfficerId : Option Nat)
  | guildAttr (guild : Option Membership) (oldGuildAttr newGuildAttr : Option (List (Attr × Int)))

def next (cfg : Config) (role : Role) : Label → Option Role
  | .upGradeBuild buildingIndex =>
    match role.buildings.lookup buildingIndex with
    | none => none
    | some buildInfo =>
      let upgraded : Building := {buildInfo with level:=buildInfo.level+1}
      (buildAttrChange cfg role.attr upgraded).map (fun attr =>
        {role with buildings:=role.buildings.insert buildingIndex upgraded, attr:=attr})
  | .awardTechnology technologyType =>
    let level := (role.technologies.lookup technologyType).getD 0+1
    (technologyAttrChange cfg role.attr technologyType level).map (fun attr =>
      {role with technologies:=role.technologies.insert technologyType level, attr:=attr})
  | .vip level => some {role with vipLv:=level, attr:=vipAttrChange cfg role.attr level (some role.vipLv)}
  | .officer guild oldOfficerId newOfficerId =>
    some {role with guild:=guild, attr:=cacleGuildOfficerAttr cfg role.attr guild oldOfficerId newOfficerId}
  | .guildAttr guild oldGuildAttr newGuildAttr =>
    some {role with guild:=guild, attr:=cacleGuildAttr role.attr guild oldGuildAttr newGuildAttr}

end OriginGame.RoleCacle
