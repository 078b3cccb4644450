import OriginGame.LuaTable
import OriginGame.Runs

namespace OriginGame.BattleBuff

abbrev ObjectIndex := Nat
abbrev StatusId := Nat

-- Names of attributes, numbered.
abbrev Attr := Nat

inductive StatusCoExist where
  | oneReplace | oneReplaceLow | twoReplace | twoReplaceLow | threeOverlay | threeOverlayReplace
  deriving DecidableEq, Repr

inductive SilentType where
  | none | skill | attack | attackSkill
  deriving DecidableEq, Repr

inductive BuffType where
  | buff | debuff
  deriving DecidableEq, Repr

inductive ImmuneType where
  | none | allDebuff | reduceSpeed | silent
  deriving DecidableEq, Repr

-- A row of s_SkillStatus. `coexistRule` is none for nil or zero, `refreshRoundRule` holds
-- for 1 and `delRule` for StatusCleanType.YES; `attrs` is attrType with attrNumber.
structure Status where
  coexistRule : Option StatusCoExist
  level : Int
  type : Int
  overlayType : Int
  overlay : Int
  refreshRoundRule : Bool
  boutTimes : Int
  silentType : SilentType
  silentRate : Int
  immuneType : ImmuneType
  immuneRate : Int
  hitRate : Int
  buffType : Option BuffType
  delRule : Bool
  autoSkillID : Nat
  attrs : List (Attr × Int)
  deriving DecidableEq, Repr

-- `effect` is s_HeroSkillEffect for a skill and its level, `moveSpeed` the attributes of
-- checkBuffReduceSpeed and `shield` the value of a shield for so many soldiers.
structure Config where
  status : StatusId → Option Status
  effect : Nat → Nat → List (Attr × Int)
  moveSpeed : Attr → Bool
  shield : Status → Int → Int

structure Buff where
  statusId : StatusId
  addObjectIndex : ObjectIndex
  shiled : Int
  overlay : Int
  turn : Int
  silentType : SilentType
  addTurn : Nat
  overlayType : Int
  type : Int
  deriving DecidableEq, Repr

structure Skill where
  skillId : Nat
  skillLevel : Nat
  statusSkill : Bool
  deriving DecidableEq, Repr

-- What the buffs of an object depend on and change.
structure Object where
  objectAttrRaw : Table Attr Int
  rawSkills : List Skill
  talentAttr : Table Attr Int
  equipAttr : Table Attr Int
  objectAttr : Table Attr Int
  skills : List Skill
  buffs : List Buff
  armyCount : Int
  buffChangeFlag : Bool

section attributes

-- `attr[name] = ( attr[name] or 0 ) + n`
def gain (attr : Table Attr Int) (name : Attr) (n : Int) : Table Attr Int := attr.insert name ((attr.lookup name).getD 0+n)

-- The same for an attribute that is there.
def gainPresent (attr : Table Attr Int) (name : Attr) (n : Int) : Table Attr Int :=
  match attr.lookup name with
  | some value => attr.insert name (value+n)
  | none => attr

def gainAll (attr : Table Attr Int) (gains : List (Attr × Int)) : Table Attr Int :=
  gains.foldl (fun attr entry => gain attr entry.1 entry.2) attr

def gainAllPresent (attr : Table Attr Int) (gains : List (Attr × Int)) : Table Attr Int :=
  gains.foldl (fun attr entry => gainPresent attr entry.1 entry.2) attr

variable (cfg : Config)

def buffGains (buff : Buff) : List (Attr × Int) :=
  match cfg.status buff.statusId with
  | some sSkillStatus => sSkillStatus.attrs.map (fun entry => (entry.1,entry.2*buff.overlay))
  | none => []

def buffSkill (buff : Buff) : Option Skill :=
  match cfg.status buff.statusId with
  | some sSkillStatus =>
    if 0 < sSkillStatus.autoSkillID then some ⟨sSkillStatus.autoSkillID/100,sSkillStatus.autoSkillID%100,true⟩ else none
  | none => none

def cacleSkills (o : Object) : List Skill := o.rawSkills++o.buffs.filterMap (buffSkill cfg)

def cacleAttr (o : Object) : Table Attr Int :=
  let buffed := gainAll o.objectAttrRaw (o.buffs.flatMap (buffGains cfg))
  let skilled := gainAllPresent buffed ((cacleSkills cfg o).flatMap (fun skill => cfg.effect skill.skillId skill.skillLevel))
  let talented := gainAllPresent skilled (o.talentAttr.entries.map (fun e => (e.1,e.2)))
  gainAllPresent talented (o.equipAttr.entries.map (fun e => (e.1,e.2)))

def cacleObjectAttr (o : Object) : Object := {o with objectAttr:=cacleAttr cfg o, skills:=cacleSkills cfg o}

end attributes

-- The random numbers of one addBuff: immunity takes one for each buff that may resist.
structure Rolls where
  immune : List Int
  hit : Int
  wave : Int
  silent : Int
  deriving DecidableEq, Repr

section adding
variable (cfg : Config)

def checkIsSilentBuff (sSkillStatus : Status) : Bool := sSkillStatus.silentType ≠ .none

def checkBuffReduceSpeed (sSkillStatus : Status) : Bool :=
  sSkillStatus.attrs.any (fun entry => cfg.moveSpeed entry.1 && entry.2 < 0)

def checkIsDebuff (sSkillStatus : Status) : Bool := sSkillStatus.buffType = some .debuff

-- Whether a status of an object's buff may resist the new one.
def resists (mine new : Status) : Bool :=
  match mine.immuneType with
  | .none => false
  | .allDebuff => checkIsDebuff new
  | .reduceSpeed => checkBuffReduceSpeed cfg new
  | .silent => checkIsSilentBuff new

def checkIsImmUnityStatus (new : Status) : List Buff → List Int → Bool
  | [],_ => false
  | buff::rest,rolls =>
    match cfg.status buff.statusId with
    | none => checkIsImmUnityStatus new rest rolls
    | some mine =>
      if resists cfg mine new then rolls.headD 1000 ≤ mine.immuneRate || checkIsImmUnityStatus new rest rolls.tail
      else checkIsImmUnityStatus new rest rolls

-- Without a caster any caster's buff counts.
def checkBuffExistByOverlay (buffs : List Buff) (checkOverlayType : Int) (caster : Option ObjectIndex) : Option Nat :=
  buffs.findIdx? (fun buff => decide (0 < checkOverlayType) && checkOverlayType == buff.overlayType &&
    caster.all (· == buff.addObjectIndex))

def checkBuffExistLowLevelByOverlay (buffs : List Buff) (level type : Int) (caster : Option ObjectIndex) : Option Nat :=
  buffs.findIdx? (fun buff => buff.type == type && (cfg.status buff.statusId).any (fun s => decide (s.level ≤ level)) &&
    caster.all (· == buff.addObjectIndex))

def newTurn (sSkillStatus : Status) (buffTurn : Option Int) (wave : Int) : Int :=
  match buffTurn,sSkillStatus.refreshRoundRule with
  | some turn,false => turn
  | _,_ => if sSkillStatus.boutTimes = -1 then -1 else sSkillStatus.boutTimes+wave

def newSilent (sSkillStatus : Status) (roll : Int) : SilentType :=
  if sSkillStatus.silentType ≠ .none ∧ sSkillStatus.silentRate < roll then .none else sSkillStatus.silentType

def newBuff (o : Object) (sceneTurn : Nat) (caster : ObjectIndex) (statusId : StatusId) (sSkillStatus : Status)
    (buffTurn : Option Int) (rolls : Rolls) : Buff where
  statusId := statusId
  addObjectIndex := caster
  shiled := cfg.shield sSkillStatus o.armyCount
  overlay := 1
  turn := newTurn sSkillStatus buffTurn rolls.wave
  silentType := newSilent sSkillStatus rolls.silent
  addTurn := sceneTurn
  overlayType := sSkillStatus.overlayType
  type := sSkillStatus.type

def addBuffImpl (o : Object) (sceneTurn : Nat) (caster : ObjectIndex) (statusId : StatusId) (sSkillStatus : Status)
    (buffTurn : Option Int) (rolls : Rolls) : Object :=
  let added := {o with buffs:=o.buffs++[newBuff cfg o sceneTurn caster statusId sSkillStatus buffTurn rolls]}
  {cacleObjectAttr cfg added with buffChangeFlag:=true}

-- The buff that exists goes, and the new one takes over its turns.
def replaceBuff (o : Object) (sceneTurn : Nat) (caster : ObjectIndex) (statusId : StatusId) (sSkillStatus : Status)
    (exist : Option Nat) (rolls : Rolls) : Object :=
  match exist with
  | some buffIndex => addBuffImpl cfg {o with buffs:=o.buffs.eraseIdx buffIndex} sceneTurn caster statusId sSkillStatus
      ((o.buffs[buffIndex]?).map Buff.turn) rolls
  | none => addBuffImpl cfg o sceneTurn caster statusId sSkillStatus none rolls

def restack (o : Object) (buffIndex : Nat) : Object :=
  {o with buffs:=o.buffs.modify buffIndex (fun buff => {buff with overlay:=buff.overlay+1})}

def addStatus (o : Object) (sceneTurn : Nat) (caster : ObjectIndex) (statusId : StatusId) (sSkillStatus : Status) (rolls : Rolls) : Object :=
  match sSkillStatus.coexistRule with
  | none => addBuffImpl cfg o sceneTurn caster statusId sSkillStatus none rolls
  | some .oneReplace => replaceBuff cfg o sceneTurn caster statusId sSkillStatus
      (checkBuffExistByOverlay o.buffs sSkillStatus.overlayType none) rolls
  | some .oneReplaceLow => replaceBuff cfg o sceneTurn caster statusId sSkillStatus
      (checkBuffExistLowLevelByOverlay cfg o.buffs sSkillStatus.level sSkillStatus.type none) rolls
  | some .twoReplace => replaceBuff cfg o sceneTurn caster statusId sSkillStatus
      (checkBuffExistByOverlay o.buffs sSkillStatus.overlayType (some caster)) rolls
  | some .twoReplaceLow => replaceBuff cfg o sceneTurn caster statusId sSkillStatus
      (checkBuffExistLowLevelByOverlay cfg o.buffs sSkillStatus.level sSkillStatus.type (some caster)) rolls
  | some .threeOverlay =>
    match checkBuffExistByOverlay o.buffs sSkillStatus.overlayType none with
    | some buffIndex =>
      if 1 < sSkillStatus.overlay ∧ (o.buffs[buffIndex]?).any (fun buff => decide (buff.overlay < sSkillStatus.overlay)) then
        restack o buffIndex
      else o
    | none => addBuffImpl cfg o sceneTurn caster statusId sSkillStatus none rolls
  -- The same with the caster, and without a look at the limit.
  | some .threeOverlayReplace =>
    match checkBuffExistByOverlay o.buffs sSkillStatus.overlayType (some caster) with
    | some buffIndex => if 1 < sSkillStatus.overlay then restack o buffIndex else o
    | none => addBuffImpl cfg o sceneTurn caster statusId sSkillStatus none rolls

-- A status that is not immune against, hits and is in the config.
def admitted (o : Object) (statusId : StatusId) (rolls : Rolls) : Option Status :=
  match cfg.status statusId with
  | none => none
  | some sSkillStatus =>
    if checkIsImmUnityStatus cfg sSkillStatus o.buffs rolls.immune then none
    else if rolls.hit ≤ sSkillStatus.hitRate then some sSkillStatus else none

def addBuff (o : Object) (sceneTurn : Nat) (caster : ObjectIndex) (statusId : StatusId) (rolls : Rolls) : Object :=
  match admitted cfg o statusId rolls with
  | some sSkillStatus => addStatus cfg o sceneTurn caster statusId sSkillStatus rolls
  | none => o

end adding

section removing
variable (cfg : Config)

-- deleteObjectBuff, deleteObjectDebuff, deleteObjectAllBuff, deleteObjectStatusBuff and
-- deleteObjectOverlayBuff, which differ in the buffs they look at.
inductive Deletion where
  | buff | debuff | all
  | status (statusId : StatusId) (force : Bool)
  | overlay (overlayType : Int)
  deriving DecidableEq, Repr

def Deletion.concerns (deletion : Deletion) (buff : Buff) : Bool :=
  let status := cfg.status buff.statusId
  match deletion with
  | .buff => status.any (fun s => decide (s.buffType = some .buff) && s.delRule)
  | .debuff => status.any (fun s => decide (s.buffType = some .debuff) && s.delRule)
  | .all => status.any Status.delRule
  | .status statusId force => buff.statusId == statusId && (status.any Status.delRule || force)
  | .overlay overlayType => status.any Status.delRule && buff.overlayType == overlayType

-- A count of -1 is no limit. A count of 0 that meets one more buff becomes -1.
def removeIndexs (deletion : Deletion) (delRate : Int) : Int → List Int → Nat → List Buff → List Nat
  | _,_,_,[] => []
  | delCount,rolls,index,buff::rest =>
    if deletion.concerns cfg buff then
      if rolls.headD 1000 ≤ delRate then
        let left := if delCount = -1 then -1 else delCount-1
        let later := removeIndexs deletion delRate left rolls.tail (index+1) rest
        if delCount = 0 then later else index::later
      else removeIndexs deletion delRate delCount rolls.tail (index+1) rest
    else removeIndexs deletion delRate delCount rolls (index+1) rest

-- The loop of cacleShiled: the shields left, and the buffs whose shield is used up.
def absorb : Int → Nat → List Buff → List Buff × List Nat
  | _,_,[] => ([],[])
  | damage,index,buff::rest =>
    if 0 < buff.shiled ∧ 0 < damage then
      if damage < buff.shiled then
        let later := absorb 0 (index+1) rest
        ({buff with shiled:=buff.shiled-damage}::later.1,later.2)
      else
        let later := absorb (damage-buff.shiled) (index+1) rest
        (buff::later.1,index::later.2)
    else
      let later := absorb damage (index+1) rest
      (buff::later.1,later.2)

-- The loop of turnOverSubStatusTurn over one object's buffs.
def subTurn : Nat → List Buff → List Buff × List Nat
  | _,[] => ([],[])
  | index,buff::rest =>
    let later := subTurn (index+1) rest
    if 0 ≤ buff.turn then
      ({buff with turn:=buff.turn-1}::later.1,if buff.turn-1 ≤ 0 then index::later.2 else later.2)
    else (buff::later.1,later.2)

def removeSkillOnStatusDelete (o : Object) (buff : Buff) : Object :=
  match cfg.status buff.statusId with
  | some sSkillStatus =>
    if 0 < sSkillStatus.autoSkillID then
      {o with skills:=o.skills.eraseP (fun skill => skill.skillId == sSkillStatus.autoSkillID && skill.statusSkill)}
    else o
  | none => o

def removeBuff (o : Object) (buffIndex : Nat) : Object :=
  match o.buffs[buffIndex]? with
  | some buff => {removeSkillOnStatusDelete cfg o buff with buffs:=o.buffs.eraseIdx buffIndex}
  | none => o

end removing

-- A removal at work: the object, the places of the buffs still to go and whether there
-- were any. Before a buff goes it may heal, hurt and so trigger skills, which may add and
-- remove buffs of the object and renumber them: then its index can hit any of them.
structure Frame where
  object : ObjectIndex
  remove : List Nat
  any : Bool
  flags : Bool
  moved : Bool
  deriving DecidableEq, Repr

structure Scene where
  objectInfos : Table ObjectIndex Object
  frames : List Frame
  turn : Nat

-- What CreateBattle and JoinBattle make an object from.
structure Info where
  objectAttr : Table Attr Int
  skills : List Skill
  talentAttr : Table Attr Int
  equipAttr : Table Attr Int
  battleBuff : List (StatusId × Int)
  armyCount : Int

inductive Label where
  | join (object : ObjectIndex) (info : Info)
  | exit (object : ObjectIndex)
  | syncObjectAttr (object : ObjectIndex) (objectAttr : Table Attr Int)
  | syncObjectHeroAndSkill (object : ObjectIndex) (skills : List Skill) (talentAttr : Table Attr Int)
  | nextTurn
  | addBuff (caster object : ObjectIndex) (statusId : StatusId) (rolls : Rolls)
  | delete (object : ObjectIndex) (deletion : Deletion) (delRate delCount : Int) (rolls : List Int)
  | cacleShiled (object : ObjectIndex) (damage : Int)
  | turnOverSubStatusTurn (object : ObjectIndex)
  -- The removal at work goes on, and ends.
  | remove (hit : Option Nat)
  | finish

section scene
variable (cfg : Config)

def createBuff (object : ObjectIndex) (entry : StatusId × Int) : Option Buff :=
  (cfg.status entry.1).map (fun sSkillStatus =>
    ⟨entry.1,object,0,1,entry.2,.none,1,sSkillStatus.overlayType,sSkillStatus.type⟩)

-- The new object, with addObjectBuffOnCreate.
def create (object : ObjectIndex) (info : Info) : Object :=
  cacleObjectAttr cfg ⟨info.objectAttr,info.skills,info.talentAttr,info.equipAttr,info.objectAttr,info.skills,
    info.battleBuff.filterMap (createBuff cfg object),info.armyCount,false⟩

-- An object changes, and with it the numbers of its buffs.
def change (s : Scene) (object : ObjectIndex) (f : Object → Object) : Scene :=
  match s.objectInfos.lookup object with
  | none => s
  | some o => {s with
      objectInfos:=s.objectInfos.insert object (f o),
      frames:=s.frames.map (fun frame => if frame.object = object then {frame with moved:=true} else frame)}

-- The places, once the buffs before them are gone.
def places (indexs : List Nat) : List Nat := indexs.mapIdx (fun gone index => index-gone)

-- A loop has chosen the buffs that go.
def begin (s : Scene) (object : ObjectIndex) (flags : Bool) (choose : List Buff → List Buff × List Nat) : Scene :=
  match s.objectInfos.lookup object with
  | none => s
  | some o =>
    let chosen := choose o.buffs
    let started := change s object (fun o => {o with buffs:=chosen.1})
    {started with frames:=⟨object,places chosen.2,!chosen.2.isEmpty,flags,false⟩::started.frames}

def ended (frame : Frame) (o : Object) : Object :=
  if frame.any then {cacleObjectAttr cfg o with buffChangeFlag:=o.buffChangeFlag || frame.flags} else o

def next (s : Scene) : Label → Scene
  | .join object info => {s with objectInfos:=s.objectInfos.insert object (create cfg object info)}
  | .exit object => {s with objectInfos:=s.objectInfos.erase object}
  | .syncObjectAttr object objectAttr => change s object (fun o => cacleObjectAttr cfg {o with objectAttrRaw:=objectAttr})
  | .syncObjectHeroAndSkill object skills talentAttr =>
    change s object (fun o => cacleObjectAttr cfg {o with rawSkills:=skills, talentAttr:=talentAttr})
  | .nextTurn => {s with turn:=s.turn+1}
  | .addBuff caster object statusId rolls => change s object (fun o => addBuff cfg o s.turn caster statusId rolls)
  | .delete object deletion delRate delCount rolls =>
    begin s object true (fun buffs => (buffs,removeIndexs cfg deletion delRate delCount rolls 0 buffs))
  | .cacleShiled object damage => begin s object false (absorb damage 0)
  | .turnOverSubStatusTurn object => begin s object false (subTurn 0)
  | .remove hit =>
    match s.frames with
    | ⟨object,buffIndex::rest,any,flags,moved⟩::frames =>
      let target := if moved then hit else some buffIndex
      let removed := change {s with frames:=frames} object (fun o => match target with
        | some place => removeBuff cfg o place
        | none => o)
      {removed with frames:=⟨object,rest,any,flags,moved⟩::removed.frames}
    | _ => s
  | .finish =>
    match s.frames with
    | ⟨object,[],any,flags,moved⟩::frames => change {s with frames:=frames} object (ended cfg ⟨object,[],any,flags,moved⟩)
    | _ => s

end scene
end OriginGame.BattleBuff
