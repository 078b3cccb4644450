import OriginGame.LuaTable
import OriginGame.Runs

namespace OriginGame.RankMgr

-- The keys of rankTypes whose board has a table of its own, "c_" before the key.
inductive Plain where
  | rolePower | alliancePower | allianceKill | allianceFlag | townhall | roleKill | roleCollectRes | reserve
  | combatFirst | riseUp | expedition | tribeKing | fightHorn | fightHornAlliance
  deriving DecidableEq, Repr

-- kill_type_1 to kill_type_5.
inductive KillType where
  | train | killBarb | collectRes | powerUp | kill
  deriving DecidableEq, Repr

-- hell_activity_1 to hell_activity_6.
inductive Age where
  | original | classical | dark | feudal | industry | modern
  deriving DecidableEq, Repr

-- The keys with multiTable.
inductive GuildKey where
  | guildRolePower | guildRoleKill | guildRoleDonate | guildRoleBuild | guildRoleHelp | guildResourceHelp
  deriving DecidableEq, Repr

-- `_key` with its `_tableKey`: exactly the multiTable keys are called with one, and
-- string.format gives every board a name of its own.
inductive Board where
  | plain (key : Plain)
  | killTypeAll
  | killType (format : KillType)
  | hellActivity (type : Age)
  | guild (key : GuildKey) (tableKey : Int)
  deriving DecidableEq, Repr

inductive TableName where
  | plain (key : Plain)
  | killType
  | hellActivityRank
  | guild (key : GuildKey)
  deriving DecidableEq, Repr

structure RankType where
  name : TableName
  rankType : Nat
  type : Option Age
  format : Option KillType
  formatString : Bool
  multiTable : Bool
  deriving DecidableEq, Repr

def Plain.rankType : Plain → Nat
  | .rolePower => 204 | .alliancePower => 201 | .allianceKill => 202 | .allianceFlag => 203 | .townhall => 206
  | .roleKill => 205 | .roleCollectRes => 207 | .reserve => 102 | .combatFirst => 100 | .riseUp => 101
  | .expedition => 208 | .tribeKing => 115 | .fightHorn => 116 | .fightHornAlliance => 117

def KillType.rankType : KillType → Nat
  | .train => 104 | .killBarb => 105 | .collectRes => 106 | .powerUp => 107 | .kill => 108

-- The third age has the type of the alliances' kills, the fourth that of the third.
def Age.rankType : Age → Nat
  | .original => 109 | .classical => 110 | .dark => 202 | .feudal => 111 | .industry => 113 | .modern => 114

def GuildKey.rankType : GuildKey → Nat
  | .guildRolePower => 300 | .guildRoleKill => 301 | .guildRoleDonate => 302 | .guildRoleBuild => 303
  | .guildRoleHelp => 304 | .guildResourceHelp => 305

def rankTypes : Board → RankType
  | .plain key => ⟨.plain key,key.rankType,none,none,false,false⟩
  | .killTypeAll => ⟨.killType,103,none,none,true,false⟩
  | .killType format => ⟨.killType,format.rankType,none,some format,false,false⟩
  | .hellActivity type => ⟨.hellActivityRank,type.rankType,some type,none,false,false⟩
  | .guild key _ => ⟨.guild key,key.rankType,none,none,false,true⟩

-- A row of a rank table; its id is the key it is kept under.
structure Row where
  score : Int
  gameNode : Option Nat
  rankType : Option Age
  lastScore : Option Int
  deriving DecidableEq, Repr

-- An id of c_kill_type, a varchar: "%d_%d", or the member alone.
structure KillId where
  member : Int
  format : Option KillType
  deriving DecidableEq, Repr

-- What a caller passes as an id.
inductive Pid where
  | number (member : Int)
  | text (id : KillId)
  deriving DecidableEq, Repr

-- The tables with a row for each id (bigint, for c_kill_type varchar), and those with a
-- row of members for each guild.
structure Db where
  numbered : TableName → Table Int Row
  killType : Table KillId Row
  multi : GuildKey → Table Int (Table Int Row)

namespace Db

-- A number finds no varchar id.
def get (db : Db) (name : TableName) (pid : Pid) : Option Row :=
  match name,pid with
  | .killType,.text id => db.killType.lookup id
  | .killType,.number _ => none
  | name,.number member => (db.numbered name).lookup member
  | _,.text _ => none

def put (db : Db) (name : TableName) (pid : Pid) (row : Row) : Db :=
  match name,pid with
  | .killType,.text id => {db with killType:=db.killType.insert id row}
  | .killType,.number _ => db
  | name,.number member => {db with numbered:=Function.update db.numbered name ((db.numbered name).insert member row)}
  | _,.text _ => db

def delete (db : Db) (name : TableName) (pid : Pid) : Db :=
  match name,pid with
  | .killType,.text id => {db with killType:=db.killType.erase id}
  | .killType,.number _ => db
  | name,.number member => {db with numbered:=Function.update db.numbered name ((db.numbered name).erase member)}
  | _,.text _ => db

def deleteAll (db : Db) (name : TableName) : Db :=
  match name with
  | .killType => {db with killType:=∅}
  | name => {db with numbered:=Function.update db.numbered name ∅}

def getMulti (db : Db) (key : GuildKey) (tableKey member : Int) : Option Row :=
  ((db.multi key).lookup tableKey).bind (fun rows => rows.lookup member)

def putMulti (db : Db) (key : GuildKey) (tableKey member : Int) (row : Row) : Db :=
  let rows := ((db.multi key).lookup tableKey).getD ∅
  {db with multi:=Function.update db.multi key ((db.multi key).insert tableKey (rows.insert member row))}

def deleteMulti (db : Db) (key : GuildKey) (tableKey : Int) (member : Option Int) : Db :=
  match member,(db.multi key).lookup tableKey with
  | _,none => db
  | some member,some rows => {db with multi:=Function.update db.multi key ((db.multi key).insert tableKey (rows.erase member))}
  | none,some _ => {db with multi:=Function.update db.multi key ((db.multi key).erase tableKey)}

@[simp] theorem deleteMulti_numbered (db : Db) (key : GuildKey) (tableKey : Int) (member : Option Int) :
    (db.deleteMulti key tableKey member).numbered = db.numbered := by
  unfold deleteMulti
  split <;> rfl

@[simp] theorem deleteMulti_killType (db : Db) (key : GuildKey) (tableKey : Int) (member : Option Int) :
    (db.deleteMulti key tableKey member).killType = db.killType := by
  unfold deleteMulti
  split <;> rfl

@[simp] theorem getMulti_frame (db : Db) (numbered : TableName → Table Int Row) (killType : Table KillId Row)
    (key : GuildKey) (tableKey member : Int) :
    (Db.mk numbered killType db.multi).getMulti key tableKey member = db.getMulti key tableKey member := rfl

theorem getMulti_insert (db : Db) (key other : GuildKey) (tableKey guildId rid : Int) (rows : Table Int Row) :
    ({db with multi:=Function.update db.multi key ((db.multi key).insert tableKey rows)} : Db).getMulti other guildId rid =
      if other = key ∧ guildId = tableKey then rows.lookup rid else db.getMulti other guildId rid := by
  by_cases same : other = key
  · subst same
    by_cases guild : guildId = tableKey
    · subst guild
      simp [getMulti]
    · simp [getMulti,guild]
  · simp [getMulti,same]

theorem getMulti_erase (db : Db) (key other : GuildKey) (tableKey guildId rid : Int) :
    ({db with multi:=Function.update db.multi key ((db.multi key).erase tableKey)} : Db).getMulti other guildId rid =
      if other = key ∧ guildId = tableKey then none else db.getMulti other guildId rid := by
  by_cases same : other = key
  · subst same
    by_cases guild : guildId = tableKey
    · subst guild
      simp [getMulti]
    · simp [getMulti,guild]
  · simp [getMulti,same]

theorem getMulti_putMulti (db : Db) (key other : GuildKey) (tableKey member guildId rid : Int) (row : Row) :
    (db.putMulti key tableKey member row).getMulti other guildId rid =
      if other = key ∧ guildId = tableKey ∧ rid = member then some row else db.getMulti other guildId rid := by
  rw [putMulti,getMulti_insert]
  by_cases board : other = key ∧ guildId = tableKey
  · obtain ⟨rfl,rfl⟩ := board
    rw [if_pos ⟨rfl,rfl⟩]
    by_cases same : rid = member
    · subst same
      rw [AList.lookup_insert,if_pos ⟨rfl,rfl,rfl⟩]
    · rw [AList.lookup_insert_ne same,if_neg (fun all => same all.2.2),getMulti]
      cases (db.multi other).lookup guildId <;> rfl
  · rw [if_neg board,if_neg (fun all => board ⟨all.1,all.2.1⟩)]

theorem getMulti_deleteOne (db : Db) (key other : GuildKey) (tableKey member guildId rid : Int) :
    (db.deleteMulti key tableKey (some member)).getMulti other guildId rid =
      if other = key ∧ guildId = tableKey ∧ rid = member then none else db.getMulti other guildId rid := by
  cases found : (db.multi key).lookup tableKey with
  | none =>
    simp only [deleteMulti,found]
    split
    · rename_i same
      obtain ⟨rfl,rfl,rfl⟩ := same
      simp [getMulti,found]
    · rfl
  | some rows =>
    simp only [deleteMulti,found]
    rw [getMulti_insert]
    by_cases board : other = key ∧ guildId = tableKey
    · obtain ⟨rfl,rfl⟩ := board
      by_cases same : rid = member
      · subst same
        simp
      · simp [getMulti,found,same]
    · rw [if_neg board,if_neg (fun all => board ⟨all.1,all.2.1⟩)]

theorem getMulti_deleteAll (db : Db) (key other : GuildKey) (tableKey guildId rid : Int) :
    (db.deleteMulti key tableKey none).getMulti other guildId rid =
      if other = key ∧ guildId = tableKey then none else db.getMulti other guildId rid := by
  cases found : (db.multi key).lookup tableKey with
  | none =>
    simp only [deleteMulti,found]
    split
    · rename_i same
      obtain ⟨rfl,rfl⟩ := same
      simp [getMulti,found]
    · rfl
  | some rows =>
    simp only [deleteMulti,found]
    exact getMulti_erase db key other tableKey guildId rid

end Db

inductive RedisKey where
  | board (b : Board)
  | copy (b : Board)
  deriving DecidableEq, Repr

structure State where
  redis : RedisKey → Table Int Int
  db : Db
  -- deleteRecord messages the service has posted to itself.
  posts : List (Board × Int)

structure Leaderboard where
  list : Nat
  recordLimit : Nat

-- `double` is what Redis keeps of a score, `leaderboard` is s_Leaderboard and
-- `hellactivitycenter` the entry of that name in the node's environment.
structure Config where
  double : Int → Int
  leaderboard : Nat → Leaderboard
  hellactivitycenter : Bool

section
variable (cfg : Config)

def zadd (redis : RedisKey → Table Int Int) (key : RedisKey) (score member : Int) : RedisKey → Table Int Int :=
  Function.update redis key ((redis key).insert member (cfg.double score))

def zrem (redis : RedisKey → Table Int Int) (key : RedisKey) (member : Int) : RedisKey → Table Int Int :=
  Function.update redis key ((redis key).erase member)

def del (redis : RedisKey → Table Int Int) (key : RedisKey) : RedisKey → Table Int Int := Function.update redis key ∅

-- The order of a sorted set: by score, members of one score by their text.
def below (one other : Int × Int) : Bool :=
  one.2 < other.2 || one.2 == other.2 && toString one.1 < toString other.1

def members (t : Table Int Int) : List (Int × Int) := t.entries.map (fun e => (e.1,e.2))

def zrank (t : Table Int Int) (member : Int) : Option Nat :=
  (t.lookup member).map (fun score => (members t).countP (fun other => below other (member,score)))

def zrevrange (t : Table Int Int) (start : Nat) : List Int :=
  (((members t).mergeSort (fun one other => !below one other)).drop start).map Prod.fst

-- getRank with _MaxtoMin.
def getRank (redis : RedisKey → Table Int Int) (member : Int) (b : Board) : Option Int :=
  (zrank (redis (.board b)) member).map (fun rank => (redis (.board b)).keys.length-rank)

-- The id updateDb gives a record.
def recordId (info : RankType) (member : Int) : Pid :=
  match info.format,info.formatString with
  | some format,_ => .text ⟨member,some format⟩
  | none,true => .text ⟨member,none⟩
  | none,false => .number member

-- Set writes the fields that are given and keeps the others.
def written (old : Option Row) (score : Int) (gameNode : Option Nat) (type : Option Age) (lastScore : Option Int) : Row :=
  match old with
  | none => ⟨score,gameNode,type,lastScore⟩
  | some row => ⟨score,gameNode <|> row.gameNode,type <|> row.rankType,lastScore <|> row.lastScore⟩

def updateDbRow (db : Db) (b : Board) (member score : Int) (gameNode : Option Nat) (lastScore : Option Int) : Db :=
  match b with
  | .guild key tableKey => db.putMulti key tableKey member (written (db.getMulti key tableKey member) score none none lastScore)
  | b =>
    let info := rankTypes b
    db.put info.name (recordId info member) (written (db.get info.name (recordId info member)) score gameNode info.type lastScore)

-- The members behind recordLimit. A guild board is looked up without its guild, where
-- there is no board.
def surplus (redis : RedisKey → Table Int Int) (b : Board) : List (Board × Int) :=
  match b with
  | .guild _ _ => []
  | b =>
    let sLeaderboard := cfg.leaderboard (rankTypes b).rankType
    if sLeaderboard.list = 3 then [] else (zrevrange (redis (.board b)) sLeaderboard.recordLimit).map (fun member => (b,member))

def updateDb (s : State) (b : Board) (member score : Int) (gameNode : Option Nat) (lastScore : Option Int) : State :=
  {s with db:=updateDbRow s.db b member score gameNode lastScore, posts:=s.posts++surplus cfg s.redis b}

def update (s : State) (member : Int) (b : Board) (score : Int) (gameNode : Option Nat) : State :=
  let oldRank := getRank s.redis member b
  let added := {s with redis:=zadd cfg s.redis (.board b) score member}
  let rank := getRank added.redis member b
  if oldRank = rank then updateDb cfg added b member score gameNode none
  else
    let told := updateDb cfg added b member score gameNode (oldRank <|> rank)
    {told with redis:=zadd cfg told.redis (.copy b) ((oldRank <|> rank).getD 0) member}

-- No member: the whole table, or all members of the guild.
def deleteDb (db : Db) (b : Board) (member : Option Int) : Db :=
  match b,member with
  | .guild key tableKey,member => db.deleteMulti key tableKey member
  | b,none => db.deleteAll (rankTypes b).name
  | b,some member => db.delete (rankTypes b).name (.number member)

def deleteKey (s : State) (b : Board) (noDeleteDb : Bool) : State :=
  {s with
    redis:=del (del s.redis (.copy b)) (.board b),
    db:=if noDeleteDb then s.db else deleteDb s.db b none}

def deleteRecord (s : State) (b : Board) (member : Int) : State :=
  {s with
    redis:=zrem (zrem s.redis (.copy b) member) (.board b) member,
    db:=deleteDb s.db b (some member)}

-- The local function of Init's loops.
def restore (b : Board) (redis : RedisKey → Table Int Int) (rid : Int) (rankInfo : Row) : RedisKey → Table Int Int :=
  let copied := match rankInfo.lastScore with
    | some oldScore => zadd cfg redis (.copy b) oldScore rid
    | none => redis
  zadd cfg copied (.board b) rankInfo.score rid

-- The body of `for id, rankInfo in pairs( rankList )`; `place` says which board and
-- member an entry is for.
def loadOne [DecidableEq κ] (rankList : Table κ Row) (place : κ → Row → Option (Board × Int)) (redis : RedisKey → Table Int Int)
    (id : κ) : RedisKey → Table Int Int :=
  match rankList.lookup id with
  | none => redis
  | some rankInfo => match place id rankInfo with
    | some (b,rid) => restore cfg b redis rid rankInfo
    | none => redis

def loop [DecidableEq κ] (order : Order κ) (rankList : Table κ Row) (place : κ → Row → Option (Board × Int))
    (redis : RedisKey → Table Int Int) : RedisKey → Table Int Int :=
  (order.visit rankList.keys).foldl (loadOne cfg rankList place) redis

structure Orders where
  numbered : TableName → Order Int
  killType : Order KillId
  multi : GuildKey → Int → Order Int

-- The loops before that of c_kill_type, and after it.
def Plain.first : List Plain :=
  [.rolePower,.alliancePower,.allianceKill,.allianceFlag,.roleKill,.townhall,.roleCollectRes,.reserve,.combatFirst,.riseUp]

def Plain.last : List Plain := [.expedition,.tribeKing,.fightHorn,.fightHornAlliance]

def GuildKey.loaded : List GuildKey :=
  [.guildRolePower,.guildRoleKill,.guildRoleDonate,.guildRoleBuild,.guildRoleHelp,.guildResourceHelp]

def loadPlain (orders : Orders) (db : Db) (redis : RedisKey → Table Int Int) (key : Plain) : RedisKey → Table Int Int :=
  loop cfg (orders.numbered (.plain key)) (db.numbered (.plain key)) (fun rid _ => some (.plain key,rid)) redis

def killBoard (id : KillId) : Board :=
  match id.format with
  | some format => .killType format
  | none => .killTypeAll

def loadKillType (orders : Orders) (db : Db) (redis : RedisKey → Table Int Int) : RedisKey → Table Int Int :=
  loop cfg orders.killType db.killType (fun id _ => some (killBoard id,id.member)) redis

def loadMulti (orders : Orders) (db : Db) (guildId : Int) (redis : RedisKey → Table Int Int) (key : GuildKey) :
    RedisKey → Table Int Int :=
  loop cfg (orders.multi key guildId) (((db.multi key).lookup guildId).getD ∅) (fun rid _ => some (.guild key guildId,rid)) redis

def loadGuild (orders : Orders) (db : Db) (redis : RedisKey → Table Int Int) (guildId : Int) : RedisKey → Table Int Int :=
  GuildKey.loaded.foldl (loadMulti cfg orders db guildId) redis

def loadHell (orders : Orders) (db : Db) (redis : RedisKey → Table Int Int) : RedisKey → Table Int Int :=
  loop cfg (orders.numbered .hellActivityRank) (db.numbered .hellActivityRank)
    (fun rid rankInfo => rankInfo.rankType.map (fun age => (.hellActivity age,rid))) redis

-- The Redis of a node that has started: flushed, then filled.
def init (orders : Orders) (guildIds : List Int) (db : Db) : RedisKey → Table Int Int :=
  let empty : RedisKey → Table Int Int := fun _ => ∅
  if cfg.hellactivitycenter then loadHell cfg orders db empty
  else
    let first := loadKillType cfg orders db (Plain.first.foldl (loadPlain cfg orders db) empty)
    guildIds.foldl (loadGuild cfg orders db) (Plain.last.foldl (loadPlain cfg orders db) first)

end
end OriginGame.RankMgr
