import Mathlib.Data.Finmap
import OriginGame.Runs

namespace OriginGame.RoleStore

-- RoleMultiEntity and RoleSingleEntity share the life cycle of a row and differ
-- in what an Update does with it.
inductive EntityKind where
  | multi | single
  deriving DecidableEq, Repr

structure Entity (ρ χ ι : Type) where
  kind : EntityKind
  blank : ρ
  merge : ρ → ρ → ρ
  change : χ → ρ → Option ρ
  insert : ι → ρ → ρ
  -- Set on a plain map
  wanted : χ → ρ → ρ
  merge_self : ∀ r, merge r r = r
  change_covers : ∀ {c r r' d}, merge r d = r → change c r = some r' → merge r' d = r'
  change_kept : ∀ {c r r'}, r ≠ blank → change c r = some r' → r' ≠ blank
  change_wanted : ∀ {c r r'}, change c r = some r' → wanted c r = r'
  insert_kept : ∀ i r, insert i r ≠ blank
  insert_covers : kind = .multi → ∀ {i r d}, merge r d = r → merge (insert i r) d = insert i r

abbrev Record (φ ν : Type) := Finmap (fun _ : φ => ν)
abbrev Rows (κ φ ν : Type) := Finmap (fun _ : κ => Record φ ν)

theorem insert_ne_empty {β : α → Type} [DecidableEq α] (a : α) (b : β a) (s : Finmap β) : s.insert a b ≠ ∅ := by
  intro empty
  have held : a ∈ s.insert a b := Finmap.mem_insert.mpr (.inl rfl)
  rw [empty] at held
  exact Finmap.notMem_empty held

theorem union_self {β : α → Type} [DecidableEq α] (s : Finmap β) : s ∪ s = s := by
  apply Finmap.ext_lookup
  intro a
  by_cases held : a ∈ s
  · exact Finmap.lookup_union_left held
  · exact Finmap.lookup_union_right held

theorem union_ne_empty {β : α → Type} [DecidableEq α] {s t : Finmap β} (some : t ≠ ∅) : s ∪ t ≠ ∅ := by
  intro empty
  apply some
  apply Finmap.ext_lookup
  intro a
  have missing : a ∉ t := by
    intro held
    have kept : a ∈ s ∪ t := Finmap.mem_union.mpr (.inr held)
    rw [empty] at kept
    exact Finmap.notMem_empty kept
  rw [Finmap.lookup_eq_none.mpr missing,Finmap.lookup_empty]

section Instances
variable (κ φ ν : Type) [DecidableEq κ] [DecidableEq φ] [DecidableEq ν]

-- Rows under their index; mainIndex, which repeats the key, is left out. An
-- Update of the whole row replaces it.
def multi : Entity (Rows κ φ ν) (κ × Record φ ν) (κ × Record φ ν) where
  kind := .multi
  blank := ∅
  merge row _ := row
  change c rows := (rows.lookup c.1).map (fun old => rows.insert c.1 (c.2 ∪ old))
  insert i rows := rows.insert i.1 i.2
  wanted c rows := rows.insert c.1 (c.2 ∪ (rows.lookup c.1).getD ∅)
  merge_self _ := rfl
  change_covers _ _ := rfl
  change_kept {c r r'} _ changed := by
    obtain ⟨old,_,rfl⟩ := Option.map_eq_some_iff.mp changed
    exact insert_ne_empty _ _ _
  change_wanted {c r r'} changed := by
    obtain ⟨old,found,rfl⟩ := Option.map_eq_some_iff.mp changed
    rw [found]
    rfl
  insert_kept _ _ := insert_ne_empty _ _ _
  insert_covers _ _ _ _ _ := rfl

-- The lockFlag form adds to one field.
inductive SingleChange where
  | assign (fields : Record φ ν)
  | increase (field : φ) (value : ν)

def single [Add ν] : Entity (Record φ ν) (SingleChange φ ν) {row : Record φ ν // row ≠ ∅} where
  kind := .single
  blank := ∅
  merge row old := row ∪ old
  change
    | .assign fields,row => some (fields ∪ row)
    | .increase field value,row => (row.lookup field).map (fun old => row.insert field (old+value))
  insert i _ := i.val
  wanted
    | .assign fields,row => fields ∪ row
    | .increase field value,row => row.insert field (((row.lookup field).map (·+value)).getD value)
  merge_self := union_self
  change_covers {c r r' d} covers changed := by
    cases c with
    | assign fields =>
      cases Option.some.inj changed
      rw [Finmap.union_assoc,covers]
    | increase field value =>
      obtain ⟨old,_,rfl⟩ := Option.map_eq_some_iff.mp changed
      rw [← Finmap.insert_union,covers]
  change_kept {c r r'} some changed := by
    cases c with
    | assign fields =>
      cases Option.some.inj changed
      exact union_ne_empty some
    | increase field value =>
      obtain ⟨old,_,rfl⟩ := Option.map_eq_some_iff.mp changed
      exact insert_ne_empty _ _ _
  change_wanted {c r r'} changed := by
    cases c with
    | assign fields => exact Option.some.inj changed
    | increase field value =>
      obtain ⟨old,found,rfl⟩ := Option.map_eq_some_iff.mp changed
      simp only [found]
      rfl
  insert_kept i _ := i.property
  insert_covers kind := by cases kind

end Instances

-- One rid in one entity service.
structure Node (ρ : Type) where
  recordset : Option ρ
  online : Bool
  updateflag : Bool
  deriving DecidableEq, Repr

-- The db service with the redis and mysql rows behind it.
structure Db (ρ : Type) extends Node ρ where
  redis : Option ρ
  mysql : Option ρ
  deriving DecidableEq, Repr

-- The game service: cache holds a row and its expireTime.
structure World (ρ : Type) where
  game : Node ρ
  cache : Option (ρ × Nat)
  offlineCacheTimer : Bool
  db : Db ρ
  alive : Bool
  now : Nat
  deriving DecidableEq, Repr

section EntityImpl
variable {ρ : Type}

def loadRole (db : Db ρ) : Option ρ × Db ρ :=
  match db.redis with
  | some row => (some row,db)
  | none => (db.mysql,{db with redis:=db.mysql})

-- The sql update of a missing row changes nothing and is no error.
def updateRole (row : ρ) (db : Db ρ) : Db ρ := {db with redis:=some row, mysql:=db.mysql.map (fun _ => row)}

def addRole (row : ρ) (db : Db ρ) : Bool × Db ρ :=
  if db.mysql.isSome then (false,db) else (true,{db with mysql:=some row, redis:=some row})

end EntityImpl

section Remote
variable {ρ χ ι : Type} [DecidableEq ρ] (E : Entity ρ χ ι)

-- `table.empty( row )`: a multi row sits under its attribute and never looks empty here.
def kept (row : ρ) : Bool := decide (E.kind = .multi) || decide (row ≠ E.blank)

def Db.load (db : Db ρ) : Option ρ × Db ρ :=
  let (row,db) := loadRole db
  let db := match row with
    | some row => if kept E row then {db with recordset:=some row} else db
    | none => db
  (db.recordset,{db with online:=true})

def Db.unload (db : Db ρ) : Db ρ :=
  match db.recordset with
  | some row =>
    let db := if db.updateflag then updateRole row db else db
    {db with redis:=none, recordset:=none, updateflag:=false, online:=false}
  | none => if E.kind = .multi then {db with online:=false} else db

-- Update of a whole row, as Load, UnLoad, Save and CacheSave of the game send it.
-- A multi Update without index needs saveFlag. A row without attribute is stored
-- as an empty one. The first component is whether it answered true.
def Db.receive (saveFlag : Bool) (row : ρ) (db : Db ρ) : Bool × Db ρ :=
  match E.kind with
  | .multi =>
    if !saveFlag then (false,db)
    else if db.online then
      match db.recordset with
      | some old => (true,updateRole (E.merge row old) {db with recordset:=some (E.merge row old)})
      | none => (true,updateRole E.blank db)
    else
      match loadRole db with
      | (none,db) => (false,db)
      | (some old,db) => (true,updateRole (E.merge row old) db)
  | .single =>
    if db.online then
      match db.recordset with
      | some old =>
        let db := {db with recordset:=some (E.merge row old)}
        if saveFlag then (true,updateRole (E.merge row old) db) else (true,{db with updateflag:=true})
      | none => if saveFlag then (false,db) else (true,{db with updateflag:=true})
    else
      match loadRole db with
      | (none,db) => (true,db)
      | (some old,db) => (true,updateRole (E.merge row old) db)

-- Update of some fields, for a role that is not online at the game.
def Db.set (c : χ) (db : Db ρ) : Bool × Db ρ :=
  if db.online then
    match db.recordset with
    | some row =>
      match E.change c row with
      | some row => (true,{db with recordset:=some row, updateflag:=true})
      | none => (false,db)
    | none => (true,{db with updateflag:=true})
  else
    match loadRole db with
    | (none,db) => (decide (E.kind = .single),db)
    | (some row,db) =>
      match E.change c row with
      | some row => (true,updateRole row db)
      | none => (false,db)

-- none is the bare false of a single Add that finds a record in memory, which the
-- game then indexes; otherwise res of the reply.
def Db.add (i : ι) (db : Db ρ) : Option Bool × Db ρ :=
  match E.kind with
  | .multi =>
    match db.recordset with
    | some rows => (some true,{db with recordset:=some (E.insert i rows), updateflag:=true})
    | none =>
      if db.online then
        (some true,(addRole E.blank {db with recordset:=some (E.insert i E.blank), updateflag:=true}).2)
      else
        match loadRole db with
        | (some rows,db) => (some true,updateRole (E.insert i rows) db)
        | (none,db) => (some true,(addRole (E.insert i E.blank) db).2)
  | .single =>
    match db.recordset with
    | some _ => (none,db)
    | none =>
      match addRole (E.insert i E.blank) db with
      | (true,db) => (some true,if db.online then {db with recordset:=some (E.insert i E.blank)} else db)
      | (false,db) => (some false,db)

end Remote

section Game
variable {ρ χ ι : Type} [DecidableEq ρ] (E : Entity ρ χ ι)

-- Load, UnLoad and CacheSave of a multi entity send saveFlag, those of a single one do not.
def pushes : Bool := decide (E.kind = .multi)

def unload (w : World ρ) : World ρ :=
  match w.game.recordset with
  | some row =>
    let w :=
      if w.alive then
        let db := if w.game.updateflag then (w.db.receive E (pushes E) row).2 else w.db
        {w with db:=db.unload E}
      else {w with cache:=some (row,w.now+1800)}
    {w with game:=⟨none,false,false⟩, offlineCacheTimer:=false}
  | none => if E.kind = .multi then {w with game.online:=false} else w

-- The cached row goes first; false is the assertion after it.
def flush (w : World ρ) : Bool × World ρ :=
  match w.cache with
  | none => (true,w)
  | some (row,_) =>
    if w.alive then
      match w.db.receive E (pushes E) row with
      | (true,db) => (true,{w with db:=db, cache:=none})
      | (false,db) => (false,{w with db:=db})
    else (false,w)

def fetch (w : World ρ) : World ρ :=
  let (row,db) := if w.alive then w.db.load E else (none,w.db)
  let recordset := match row with
    | some row => if row ≠ E.blank then some row else w.game.recordset
    | none => w.game.recordset
  {w with db:=db, game.recordset:=recordset, game.online:=true}

def load (w : World ρ) : Bool × World ρ :=
  match flush E w with
  | (false,w) => (false,w)
  | (true,w) => (true,fetch E (if w.offlineCacheTimer then unload E {w with offlineCacheTimer:=false} else w))

-- What Get finds afterwards; it loads a role that is not in memory and unloads it later.
def get (w : World ρ) : Bool × World ρ :=
  if w.game.recordset.isSome then (true,w)
  else
    match load E w with
    | (false,w) => (false,w)
    | (true,w) => (true,if w.game.recordset.isSome then {w with offlineCacheTimer:=true} else w)

def view (w : World ρ) : ρ := w.game.recordset.getD E.blank

def offlineTimer (w : World ρ) : World ρ := if w.offlineCacheTimer then unload E w else w

-- The first component is the acknowledgement.
def set (c : χ) (w : World ρ) : Bool × World ρ :=
  if w.game.online then
    match w.game.recordset with
    | some row =>
      match E.change c row with
      | some row => (true,{w with game.recordset:=some row, game.updateflag:=true})
      | none => (false,w)
    | none => (true,{w with game.updateflag:=true})
  else if w.alive then
    let (acknowledged,db) := w.db.set E c
    (acknowledged,{w with db:=db, game.recordset:=w.game.recordset.map (fun row => (E.change c row).getD row)})
  else (false,w)

def add (i : ι) (w : World ρ) : Bool × World ρ :=
  match w.game.recordset,E.kind with
  | some rows,.multi => (true,{w with game.recordset:=some (E.insert i rows), game.updateflag:=true})
  | some _,.single => (false,w)
  | none,.multi =>
    if w.alive then
      let db := (w.db.add E i).2
      if w.game.online then
        (true,{w with db:=db, game.recordset:=some (E.insert i E.blank), game.updateflag:=true})
      else (true,{w with db:=db})
    else (true,w)
  | none,.single =>
    if w.alive then
      match w.db.add E i with
      | (none,db) => (false,{w with db:=db})
      | (some done,db) =>
        (true,if done && w.game.online then {w with db:=db, game.recordset:=some (E.insert i E.blank)} else {w with db:=db})
    else (false,w)

def save (noSave : Bool) (w : World ρ) : World ρ :=
  match w.game.recordset with
  | some row =>
    if w.game.updateflag then
      let db := if w.alive then (w.db.receive E (!noSave) row).2 else w.db
      {w with db:=db, game.updateflag:=false}
    else w
  | none => w

-- `result.ret` of a multi Update indexes a boolean and raises: the row is written and stays cached.
def cacheSave (w : World ρ) : World ρ :=
  match w.cache with
  | none => w
  | some (row,expireTime) =>
    if w.alive then
      if w.now < expireTime then
        let (done,db) := w.db.receive E (pushes E) row
        {w with db:=db, cache:=if E.kind = .single ∧ done then none else w.cache}
      else {w with cache:=none}
    else w

end Game

inductive Op (χ ι : Type) where
  | load | get | set (c : χ) | add (i : ι) | save (noSave : Bool) | unload | offlineTimer | cacheSave
  -- The db node goes away and returns, with its memory or without.
  | down | up (restarted : Bool) | wait (seconds : Nat)

section Steps
variable {ρ χ ι : Type} [DecidableEq ρ] (E : Entity ρ χ ι)

def Op.apply (w : World ρ) : Op χ ι → World ρ
  | .load => (RoleStore.load E w).2
  | .get => (RoleStore.get E w).2
  | .set c => (RoleStore.set E c w).2
  | .add i => (RoleStore.add E i w).2
  | .save noSave => RoleStore.save E noSave w
  | .unload => RoleStore.unload E w
  | .offlineTimer => RoleStore.offlineTimer E w
  | .cacheSave => RoleStore.cacheSave E w
  | .down => {w with alive:=false}
  | .up restarted => {w with alive:=true, db:=if restarted then ⟨⟨none,false,false⟩,w.db.redis,w.db.mysql⟩ else w.db}
  | .wait seconds => {w with now:=w.now+seconds}

-- The plain map: acknowledged writes in order.
def Op.record (w : World ρ) (value : ρ) : Op χ ι → ρ
  | .set c => if (RoleStore.set E c w).1 then E.wanted c value else value
  | .add i => if (RoleStore.add E i w).1 then E.insert i value else value
  | _ => value

-- The store beside the plain map.
def Acts (before : World ρ × ρ) (op : Op χ ι) (after : World ρ × ρ) : Prop :=
  after = (op.apply E before.1,op.record E before.1 before.2)

end Steps
end OriginGame.RoleStore
