import OriginGame.LuaTable

namespace OriginGame
namespace EntityImpl

-- serializeSproto and unserializeSproto of one schema.
structure Codec (ρ ε : Type) where
  encode : ρ → ε
  decode : ε → ρ

-- What Common.mysqlExecute answers to a statement.
inductive Answer where
  | done | badresult
  deriving DecidableEq

-- The rows of all tables; a key is a table's name and an id.
structure Store (κ ε : Type) where
  redis : Table κ ε
  mysql : Table κ ε

section store
variable {κ ρ ε : Type} [DecidableEq κ]

def getRedisImpl (codec : Codec ρ ε) (key : κ) (s : Store κ ε) : Option ρ := (s.redis.lookup key).map codec.decode

def addRedisImpl (codec : Codec ρ ε) (key : κ) (row : ρ) (s : Store κ ε) : Store κ ε := {s with redis:=s.redis.insert key (codec.encode row)}

def delRedisImpl (key : κ) (s : Store κ ε) : Store κ ε := {s with redis:=s.redis.erase key}

def loadMysqlImpl (codec : Codec ρ ε) (key : κ) (s : Store κ ε) : Option ρ × Store κ ε :=
  match s.mysql.lookup key with
  | none => (none,s)
  | some data => (some (codec.decode data),addRedisImpl codec key (codec.decode data) s)

def loadRole (codec : Codec ρ ε) (key : κ) (s : Store κ ε) : Option ρ × Store κ ε :=
  match getRedisImpl codec key s with
  | some row => (some row,s)
  | none => loadMysqlImpl codec key s

-- loadRole with the list of the user tables.
def loadUser (codec : Codec ρ ε) (key : κ) (s : Store κ ε) : Option ρ × Store κ ε :=
  match getRedisImpl codec key s with
  | some row => (some row,s)
  | none => loadMysqlImpl codec key s

-- Redis is written before the statement; the update of a missing row changes nothing and is no error.
def updateMysqlImpl (codec : Codec ρ ε) (answer : Answer) (key : κ) (updateData : ρ) (s : Store κ ε) : Bool × Store κ ε :=
  let s := addRedisImpl codec key updateData (delRedisImpl key s)
  match answer with
  | .badresult => (false,s)
  | .done => (true,{s with mysql:=s.mysql.modify key (fun _ => codec.encode updateData)})

-- The row that is kept for a key.
def kept (codec : Codec ρ ε) (key : κ) (s : Store κ ε) : Option ρ := ((s.redis.lookup key).or (s.mysql.lookup key)).map codec.decode

theorem loadRole_kept (codec : Codec ρ ε) (key : κ) (s : Store κ ε) : (loadRole codec key s).1 = kept codec key s := by
  unfold loadRole getRedisImpl kept
  cases s.redis.lookup key with
  | some data => rfl
  | none =>
    unfold loadMysqlImpl
    cases s.mysql.lookup key <;> rfl

theorem loadUser_role (codec : Codec ρ ε) (key : κ) (s : Store κ ε) : loadUser codec key s = loadRole codec key s := rfl

theorem update_kept (codec : Codec ρ ε) (answer : Answer) (key : κ) (updateData : ρ) (s : Store κ ε) :
    kept codec key (updateMysqlImpl codec answer key updateData s).2 = some (codec.decode (codec.encode updateData)) := by
  have written : ((s.redis.erase key).insert key (codec.encode updateData)).lookup key = some (codec.encode updateData) := AList.lookup_insert _
  unfold kept updateMysqlImpl addRedisImpl delRedisImpl
  cases answer with
  | badresult =>
    dsimp only
    rw [written,Option.some_or,Option.map_some]
  | done =>
    dsimp only
    rw [written,Option.some_or,Option.map_some]

-- A rejected update leaves the loaded row alone only if it wrote that very row.
theorem rejected_kept (codec : Codec ρ ε) (answer : Answer) (key : κ) (updateData : ρ) (s : Store κ ε) :
    ((updateMysqlImpl codec answer key updateData s).1 = false →
      (loadRole codec key (updateMysqlImpl codec answer key updateData s).2).1 = (loadRole codec key s).1 ∧
      (loadUser codec key (updateMysqlImpl codec answer key updateData s).2).1 = (loadUser codec key s).1) ↔
      answer = .done ∨ kept codec key s = some (codec.decode (codec.encode updateData)) := by
  rw [loadUser_role,loadUser_role,and_self,loadRole_kept,loadRole_kept,update_kept]
  cases answer with
  | done => exact ⟨fun _ => .inl rfl,fun _ failed => by cases failed⟩
  | badresult =>
    constructor
    · exact fun same => .inr (same rfl).symm
    · rintro (accepted | same) _
      · cases accepted
      · exact same.symm

end store

def plain : Codec Nat Nat := ⟨id,id⟩

-- Row 5 holds 1, the update to 2 is rejected and 2 is loaded.
theorem rejected_written :
    (updateMysqlImpl plain .badresult 5 2 ⟨∅,AList.insert 5 1 ∅⟩).1 = false ∧
    (loadRole plain 5 (updateMysqlImpl plain .badresult 5 2 ⟨∅,AList.insert 5 1 ∅⟩).2).1 = some 2 ∧
    (loadRole plain 5 (updateMysqlImpl plain .badresult 5 2 ⟨∅,AList.insert 5 1 ∅⟩).2).1 ≠ (loadRole plain 5 ⟨∅,AList.insert 5 1 ∅⟩).1 :=
  ⟨rfl,rfl,by decide⟩

end EntityImpl
end OriginGame
