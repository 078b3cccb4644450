import OriginGame.RoleStoreDb

namespace OriginGame.RoleStore

section Store
variable {ρ χ ι : Type} {E : Entity ρ χ ι} {w : World ρ} {value : ρ}

-- Where the rows of the plain map are: in the memory of the game,
structure Loaded (E : Entity ρ χ ι) (w : World ρ) (value : ρ) : Prop where
  recordset : w.game.recordset = some value
  online : w.game.online = true
  cache : w.cache = none
  kept : value ≠ E.blank
  sound : Sound w.db
  backed : Backed E w.db value
  clean : w.game.updateflag = false → Holds w.db value

-- in its cache of rows that could not be sent,
structure Cached (E : Entity ρ χ ι) (w : World ρ) (value : ρ) : Prop where
  recordset : w.game.recordset = none
  updateflag : w.game.updateflag = false
  timer : w.offlineCacheTimer = false
  cache : ∃ expireTime, w.cache = some (value,expireTime)
  kept : value ≠ E.blank
  sound : Sound w.db
  backed : Backed E w.db value

-- or in mysql.
structure Stored (E : Entity ρ χ ι) (w : World ρ) (value : ρ) : Prop where
  recordset : w.game.recordset = none
  updateflag : w.game.updateflag = false
  timer : w.offlineCacheTimer = false
  cache : w.cache = none
  sound : Sound w.db
  mysql : w.db.mysql.getD E.blank = value
  memory : w.db.recordset = none ∨ w.db.recordset = w.db.mysql
  clean : w.db.updateflag = false

def Valid (E : Entity ρ χ ι) (w : World ρ) (value : ρ) : Prop := Loaded E w value ∨ Cached E w value ∨ Stored E w value

-- Neither service has anything left to write.
def Clean (w : World ρ) : Prop := w.game.updateflag = false ∧ w.db.updateflag = false

theorem Holds.clean {db : Db ρ} {row : ρ} (holds : Holds db row) (flag : db.updateflag = false) : db.mysql = some row := by
  rcases holds.written with written | ⟨_,dirty⟩
  · exact written
  · rw [flag] at dirty
    cases dirty

theorem pushes_whole (E : Entity ρ χ ι) : E.kind = .multi → pushes E = true := by
  intro kind
  simp only [pushes,kind,decide_true]

theorem unload_loaded (loaded : Loaded E w value) : if w.alive then Stored E (unload E w) value else Cached E (unload E w) value := by
  unfold unload
  rw [loaded.recordset]
  cases alive : w.alive with
  | false => exact ⟨rfl,rfl,rfl,⟨_,rfl⟩,loaded.kept,loaded.sound,loaded.backed⟩
  | true =>
    have holds : ∃ db, db = (if w.game.updateflag then (w.db.receive E (pushes E) value).2 else w.db) ∧ Sound db ∧ Holds db value := by
      refine ⟨_,rfl,?_⟩
      cases flag : w.game.updateflag with
      | false => exact ⟨loaded.sound,loaded.clean flag⟩
      | true =>
        obtain ⟨_,sound,_,holds,_⟩ := receive_backed loaded.sound loaded.backed (pushes_whole E)
        exact ⟨sound,holds⟩
    obtain ⟨db,same,sound,holds⟩ := holds
    obtain ⟨sound,mysql,nothing,clean,_⟩ := unload_holds E sound holds
    dsimp only [if_true]
    rw [← same]
    refine ⟨rfl,rfl,rfl,loaded.cache,sound,?_,.inl nothing,clean⟩
    change (db.unload E).mysql.getD E.blank = value
    rw [mysql]
    rfl

theorem unload_valid (valid : Valid E w value) : Valid E (unload E w) value := by
  rcases valid with loaded | cached | stored
  · have done := unload_loaded loaded
    split at done
    · exact .inr (.inr done)
    · exact .inr (.inl done)
  · right; left
    unfold unload
    rw [cached.recordset]
    dsimp only
    split
    · exact ⟨cached.recordset,cached.updateflag,cached.timer,cached.cache,cached.kept,cached.sound,cached.backed⟩
    · exact cached
  · right; right
    unfold unload
    rw [stored.recordset]
    dsimp only
    split
    · exact ⟨stored.recordset,stored.updateflag,stored.timer,stored.cache,stored.sound,stored.mysql,stored.memory,stored.clean⟩
    · exact stored

theorem away_valid (valid : Valid E w value) : Valid E {w with game.online:=true} value := by
  rcases valid with loaded | cached | stored
  · exact .inl ⟨loaded.recordset,rfl,loaded.cache,loaded.kept,loaded.sound,loaded.backed,loaded.clean⟩
  · exact .inr (.inl ⟨cached.recordset,cached.updateflag,cached.timer,cached.cache,cached.kept,cached.sound,cached.backed⟩)
  · exact .inr (.inr ⟨stored.recordset,stored.updateflag,stored.timer,stored.cache,stored.sound,stored.mysql,stored.memory,
      stored.clean⟩)

theorem view_loaded (loaded : Loaded E w value) : view E w = value := by
  unfold view
  rw [loaded.recordset]
  rfl

theorem set_loaded (loaded : Loaded E w value) (c : χ) :
    Loaded E (set E c w).2 (if (set E c w).1 then E.wanted c value else value) := by
  unfold set
  rw [loaded.online,loaded.recordset]
  simp only [if_true]
  cases changed : E.change c value with
  | none => exact loaded
  | some row =>
    simp only [if_true,E.change_wanted changed]
    obtain ⟨⟨old,mysql,covers⟩,memory⟩ := loaded.backed
    refine ⟨rfl,loaded.online,loaded.cache,E.change_kept loaded.kept changed,loaded.sound,
      ⟨⟨old,mysql,E.change_covers covers changed⟩,?_⟩,fun clean => by cases clean⟩
    intro online
    obtain ⟨old,held,covers⟩ := memory online
    exact ⟨old,held,E.change_covers covers changed⟩

theorem set_away (away : w.alive = false) (offline : w.game.online = false) (c : χ) : set E c w = (false,w) := by
  simp only [set,away,offline,Bool.false_eq_true,if_false]

-- What the game sends on is lost where the db answers true and has no row, and is
-- overwritten by a cached row.
def SetSafe (E : Entity ρ χ ι) (w : World ρ) : Prop :=
  w.game.online = false ∧
  (w.alive = true → w.cache = none ∧ w.db.online = false ∧ (E.kind = .single → w.db.mysql.isSome = true))

theorem set_stored (stored : Stored E w value) (alive : w.alive = true) (safe : SetSafe E w) (c : χ) :
    Stored E (set E c w).2 (if (set E c w).1 then E.wanted c value else value) := by
  obtain ⟨_,offline,row⟩ := safe.2 alive
  obtain ⟨found,rest,sound⟩ := loadRole_sound stored.sound
  obtain ⟨nothing,clean⟩ := stored.sound.offline offline
  unfold set Db.set
  rw [safe.1,alive,offline,stored.recordset]
  generalize loadRole w.db = pair at found rest sound ⊢
  obtain ⟨answer,db⟩ := pair
  dsimp only at found rest sound
  subst found
  have memory : db.recordset = none := by rw [rest]; exact nothing
  have flag : db.updateflag = false := by rw [rest]; exact clean
  have same : db.mysql = w.db.mysql := by rw [rest]
  have value := stored.mysql
  simp only [Bool.false_eq_true,if_false,if_true,Option.map_none]
  cases held : w.db.mysql with
  | none =>
    have kind : decide (E.kind = .single) = false := by
      apply decide_eq_false
      intro kind
      have there := row kind
      rw [held] at there
      cases there
    simp only [kind,Bool.false_eq_true,if_false]
    refine ⟨rfl,stored.updateflag,stored.timer,stored.cache,sound,?_,.inl memory,flag⟩
    change db.mysql.getD E.blank = _
    rw [same]
    exact value
  | some old =>
    rw [held] at value
    dsimp only [Option.getD_some] at value
    subst value
    have there : db.mysql.isSome = true := by rw [same,held]; rfl
    dsimp only
    rcases Option.eq_none_or_eq_some (E.change c old) with missing | ⟨row,changed⟩
    · simp only [missing,Bool.false_eq_true,if_false]
      refine ⟨rfl,stored.updateflag,stored.timer,stored.cache,sound,?_,.inl memory,flag⟩
      change db.mysql.getD E.blank = _
      rw [same,held]
      rfl
    · simp only [changed,if_true,E.change_wanted changed]
      refine ⟨rfl,stored.updateflag,stored.timer,stored.cache,updateRole_sound sound there row,?_,.inl memory,flag⟩
      change (updateRole row db).mysql.getD E.blank = row
      rw [updateRole_mysql there]
      rfl

theorem set_valid (valid : Valid E w value) (safe : w.game.recordset = none → SetSafe E w) (c : χ) :
    Valid E (set E c w).2 (if (set E c w).1 then E.wanted c value else value) := by
  rcases valid with loaded | cached | stored
  · exact .inl (set_loaded loaded c)
  · have safe := safe cached.recordset
    obtain ⟨expireTime,held⟩ := cached.cache
    cases alive : w.alive with
    | true =>
      have none := (safe.2 alive).1
      rw [held] at none
      cases none
    | false =>
      rw [set_away alive safe.1]
      exact .inr (.inl cached)
  · have safe := safe stored.recordset
    cases alive : w.alive with
    | true => exact .inr (.inr (set_stored stored alive safe c))
    | false =>
      rw [set_away alive safe.1]
      exact .inr (.inr stored)

def AddSafe (E : Entity ρ χ ι) (w : World ρ) : Prop :=
  match E.kind with
  | .multi => w.alive = true ∧ w.cache = none ∧
      if w.game.online then w.db.mysql.getD E.blank = E.blank else w.db.online = false
  | .single => w.alive = true → w.db.recordset.isSome = true ∨ w.db.mysql = none

theorem add_loaded (loaded : Loaded E w value) (i : ι) :
    Loaded E (add E i w).2 (if (add E i w).1 then E.insert i value else value) := by
  unfold add
  rw [loaded.recordset]
  cases kind : E.kind with
  | single => exact loaded
  | multi =>
    obtain ⟨⟨old,mysql,covers⟩,memory⟩ := loaded.backed
    refine ⟨rfl,loaded.online,loaded.cache,E.insert_kept i value,loaded.sound,
      ⟨⟨old,mysql,E.insert_covers kind covers⟩,?_⟩,fun clean => by cases clean⟩
    intro online
    obtain ⟨old,held,covers⟩ := memory online
    exact ⟨old,held,E.insert_covers kind covers⟩

-- A db that is not online writes the row through.
theorem add_written {db : Db ρ} (kind : E.kind = .multi) (sound : Sound db) (offline : db.online = false) (i : ι) :
    Sound (db.add E i).2 ∧ (db.add E i).2.toNode = db.toNode ∧
    (db.add E i).2.mysql = some (E.insert i (db.mysql.getD E.blank)) := by
  obtain ⟨found,rest,loaded⟩ := loadRole_sound sound
  obtain ⟨nothing,_⟩ := sound.offline offline
  unfold Db.add
  rw [kind,nothing,offline]
  generalize loadRole db = pair at found rest loaded ⊢
  obtain ⟨answer,next⟩ := pair
  dsimp only at found rest loaded
  subst found
  have node : next.toNode = db.toNode := by rw [rest]
  have mysql : next.mysql = db.mysql := by rw [rest]
  simp only [Bool.false_eq_true,if_false]
  cases held : db.mysql with
  | some rows =>
    have there : next.mysql.isSome = true := by rw [mysql,held]; rfl
    exact ⟨updateRole_sound loaded there _,node,updateRole_mysql there _⟩
  | none =>
    simp only [addRole,mysql,held,Option.isSome_none,Bool.false_eq_true,if_false]
    exact ⟨⟨fun found => found,loaded.offline⟩,node,rfl⟩

-- The first row of a role: the db has it in memory or in mysql and the game sends it again.
theorem add_first {db : Db ρ} (kind : E.kind = .multi) (sound : Sound db) (memory : db.recordset = none ∨ db.recordset = db.mysql)
    (blank : db.mysql.getD E.blank = E.blank) (i : ι) : Sound (db.add E i).2 ∧ Backed E (db.add E i).2 (E.insert i E.blank) := by
  cases online : db.online with
  | false =>
    obtain ⟨sound,node,mysql⟩ := add_written kind sound online i
    rw [blank] at mysql
    refine ⟨sound,⟨_,mysql,E.merge_self _⟩,?_⟩
    intro on
    rw [congrArg Node.online node,online] at on
    cases on
  | true =>
    have covers : E.merge (E.insert i E.blank) E.blank = E.insert i E.blank := E.insert_covers kind (E.merge_self _)
    unfold Db.add
    rw [kind]
    cases held : db.recordset with
    | some rows =>
      have mysql : db.mysql = some rows := by
        rcases memory with none | same
        · rw [held] at none
          cases none
        · rw [← same,held]
      rw [mysql] at blank
      dsimp only [Option.getD_some] at blank
      subst blank
      refine ⟨⟨sound.redis,fun off => ?_⟩,⟨E.blank,mysql,covers⟩,fun _ => ⟨_,rfl,E.merge_self _⟩⟩
      rw [show _ = true from online] at off
      cases off
    | none =>
      simp only [online,if_true,addRole]
      cases stored : db.mysql with
      | none =>
        refine ⟨⟨fun found => found,fun off => ?_⟩,⟨E.blank,rfl,covers⟩,fun _ => ⟨_,rfl,E.merge_self _⟩⟩
        cases off
      | some old =>
        rw [stored] at blank
        dsimp only [Option.getD_some] at blank
        subst blank
        refine ⟨⟨fun found => ?_,fun off => ?_⟩,⟨E.blank,rfl,covers⟩,fun _ => ⟨_,rfl,E.merge_self _⟩⟩
        · exact stored.symm.trans (sound.redis found)
        · cases off

theorem add_rows (kind : E.kind = .multi) (stored : Stored E w value) (safe : AddSafe E w) (i : ι) :
    Valid E (add E i w).2 (if (add E i w).1 then E.insert i value else value) := by
  unfold AddSafe at safe
  unfold add
  rw [stored.recordset,kind]
  rw [kind] at safe
  obtain ⟨alive,_,safe⟩ := safe
  dsimp only
  rw [alive,if_pos rfl]
  cases online : w.game.online with
  | true =>
    rw [online,if_pos rfl] at safe
    have blank : value = E.blank := by rw [← stored.mysql,safe]
    subst blank
    obtain ⟨sound,backed⟩ := add_first kind stored.sound stored.memory safe i
    exact .inl ⟨rfl,rfl,stored.cache,E.insert_kept i _,sound,backed,fun clean => by cases clean⟩
  | false =>
    rw [online,if_neg Bool.false_ne_true] at safe
    obtain ⟨sound,node,mysql⟩ := add_written kind stored.sound safe i
    obtain ⟨nothing,_⟩ := stored.sound.offline safe
    rw [stored.mysql] at mysql
    refine .inr (.inr ⟨stored.recordset,stored.updateflag,stored.timer,stored.cache,sound,?_,.inl ?_,?_⟩)
    · change (w.db.add E i).2.mysql.getD E.blank = _
      rw [mysql]
      rfl
    · exact (congrArg Node.recordset node).trans nothing
    · exact (congrArg Node.updateflag node).trans stored.clean

-- A single entity refuses a second record, when it finds the first one in memory.
theorem add_refused (kind : E.kind = .single) (recordset : w.game.recordset = none)
    (reason : w.alive = false ∨ w.db.recordset.isSome = true) (i : ι) : add E i w = (false,w) := by
  unfold add
  rw [recordset,kind]
  rcases reason with away | held
  · simp only [away,Bool.false_eq_true,if_false]
  · obtain ⟨row,held⟩ := Option.isSome_iff_exists.mp held
    have same : w.db.add E i = (none,w.db) := by simp only [Db.add,kind,held]
    simp only [same,ite_self]

theorem add_record (kind : E.kind = .single) (stored : Stored E w value) (alive : w.alive = true) (missing : w.db.mysql = none)
    (i : ι) : Valid E (add E i w).2 (if (add E i w).1 then E.insert i value else value) := by
  have nothing : w.db.recordset = none := by
    rcases stored.memory with none | same
    · exact none
    · rw [same,missing]
  have blank : value = E.blank := by rw [← stored.mysql,missing]; rfl
  subst blank
  have row := E.insert_kept i E.blank
  have done : w.db.add E i = (some true,⟨⟨if w.db.online then some (E.insert i E.blank) else none,w.db.online,w.db.updateflag⟩,
      some (E.insert i E.blank),some (E.insert i E.blank)⟩) := by
    simp only [Db.add,kind,nothing,addRole,missing,Option.isSome_none,Bool.false_eq_true,if_false]
    cases online : w.db.online with
    | true => rfl
    | false =>
      have node : w.db.toNode = ⟨none,false,w.db.updateflag⟩ := by rw [← nothing,← online]
      rw [node]
      rfl
  unfold add
  rw [stored.recordset,kind,done,alive]
  have off : w.db.online = false → (if w.db.online then some (E.insert i E.blank) else none) = none ∧ w.db.updateflag = false := by
    intro off
    rw [off]
    exact ⟨rfl,stored.clean⟩
  simp only [if_true,Bool.true_and]
  split
  · left
    refine ⟨rfl,‹_›,stored.cache,row,⟨fun found => found,off⟩,⟨⟨_,rfl,E.merge_self _⟩,fun on => ⟨_,?_,E.merge_self _⟩⟩,
      fun _ => ⟨rfl,fun on => ?_,.inl rfl⟩⟩
    · exact if_pos on
    · exact if_pos on
  · refine .inr (.inr ⟨stored.recordset,stored.updateflag,stored.timer,stored.cache,⟨fun found => found,off⟩,rfl,?_,stored.clean⟩)
    change (if w.db.online then some (E.insert i E.blank) else none) = none ∨ _ = some (E.insert i E.blank)
    split
    · exact .inr rfl
    · exact .inl rfl

theorem add_valid (valid : Valid E w value) (safe : w.game.recordset = none → AddSafe E w) (i : ι) :
    Valid E (add E i w).2 (if (add E i w).1 then E.insert i value else value) := by
  have refused (kind : E.kind = .single) (recordset : w.game.recordset = none)
      (reason : w.alive = false ∨ w.db.recordset.isSome = true) :
      Valid E (add E i w).2 (if (add E i w).1 then E.insert i value else value) := by
    rw [add_refused kind recordset reason]
    exact valid
  rcases valid with loaded | cached | stored
  · exact .inl (add_loaded loaded i)
  · have safe := safe cached.recordset
    obtain ⟨expireTime,held⟩ := cached.cache
    obtain ⟨old,mysql,_⟩ := cached.backed.mysql
    unfold AddSafe at safe
    cases kind : E.kind with
    | multi =>
      rw [kind] at safe
      rw [safe.2.1] at held
      cases held
    | single =>
      rw [kind] at safe
      cases alive : w.alive with
      | false => exact refused kind cached.recordset (.inl alive)
      | true =>
        rcases safe alive with there | none
        · exact refused kind cached.recordset (.inr there)
        · rw [mysql] at none
          cases none
  · have safe := safe stored.recordset
    cases kind : E.kind with
    | multi => exact add_rows kind stored safe i
    | single =>
      unfold AddSafe at safe
      rw [kind] at safe
      cases alive : w.alive with
      | false => exact refused kind stored.recordset (.inl alive)
      | true =>
        rcases safe alive with there | none
        · exact refused kind stored.recordset (.inr there)
        · exact add_record kind stored alive none i

def SaveSafe (E : Entity ρ χ ι) (w : World ρ) (noSave : Bool) : Prop :=
  w.game.recordset.isSome = true → w.game.updateflag = true → w.alive = true ∧ (E.kind = .multi → noSave = false)

theorem save_valid (valid : Valid E w value) (safe : SaveSafe E w noSave) : Valid E (save E noSave w) value := by
  unfold save
  rcases valid with loaded | cached | stored
  · rw [loaded.recordset]
    dsimp only
    split
    · obtain ⟨alive,whole⟩ := safe (by rw [loaded.recordset]; rfl) ‹_›
      have whole : E.kind = .multi → (!noSave) = true := fun kind => by rw [whole kind]; rfl
      obtain ⟨_,sound,backed,holds,_⟩ := receive_backed loaded.sound loaded.backed whole
      rw [alive,if_pos rfl]
      exact .inl ⟨loaded.recordset,loaded.online,loaded.cache,loaded.kept,sound,backed,fun _ => holds⟩
    · exact .inl loaded
  · rw [cached.recordset]
    exact .inr (.inl cached)
  · rw [stored.recordset]
    exact .inr (.inr stored)

-- A cached row may go once mysql has it, or when the db service will write it itself
-- before anything reads mysql again.
def CacheSaveSafe (E : Entity ρ χ ι) (w : World ρ) : Prop :=
  ∀ row expireTime, w.cache = some (row,expireTime) → w.alive = true →
    if w.now < expireTime then E.kind = .single → w.db.online = false
    else w.db.mysql = some row ∧ (w.db.recordset = none ∨ w.db.recordset = w.db.mysql) ∧ w.db.updateflag = false

theorem cacheSave_valid (valid : Valid E w value) (safe : CacheSaveSafe E w) : Valid E (cacheSave E w) value := by
  unfold cacheSave
  rcases valid with loaded | cached | stored
  · rw [loaded.cache]
    exact .inl loaded
  · obtain ⟨expireTime,held⟩ := cached.cache
    have safe := safe value expireTime held
    rw [held]
    dsimp only
    split
    · have safe := safe ‹_›
      split
      · rw [if_pos ‹_›] at safe
        obtain ⟨answer,sound,backed,_,online,mysql⟩ := receive_backed cached.sound cached.backed (pushes_whole E)
        rw [answer]
        cases kind : E.kind with
        | multi =>
          exact .inr (.inl ⟨cached.recordset,cached.updateflag,cached.timer,⟨expireTime,rfl⟩,cached.kept,sound,backed⟩)
        | single =>
          have off := safe kind
          obtain ⟨nothing,clean⟩ := sound.offline (online.trans off)
          refine .inr (.inr ⟨cached.recordset,cached.updateflag,cached.timer,rfl,sound,?_,.inl nothing,clean⟩)
          change (w.db.receive E (pushes E) value).2.mysql.getD E.blank = value
          rw [mysql (.inr off)]
          rfl
      · rw [if_neg ‹_›] at safe
        obtain ⟨mysql,memory,clean⟩ := safe
        refine .inr (.inr ⟨cached.recordset,cached.updateflag,cached.timer,rfl,cached.sound,?_,memory,clean⟩)
        change w.db.mysql.getD E.blank = value
        rw [mysql]
        rfl
    · exact .inr (.inl cached)
  · rw [stored.cache]
    exact .inr (.inr stored)

-- A restarted db service forgets what it had not written; the game still has it unless it
-- has sent it.
def UpSafe (w : World ρ) (restarted : Bool) : Prop :=
  restarted = true → w.game.recordset.isSome = true → w.game.updateflag = false →
    w.db.updateflag = false ∨ w.db.recordset = w.db.mysql

theorem Holds.mysql {db : Db ρ} {row : ρ} (holds : Holds db row) (written : db.updateflag = false ∨ db.recordset = db.mysql) :
    db.mysql = some row := by
  rcases written with clean | same
  · exact holds.clean clean
  · rcases holds.written with mysql | ⟨online,_⟩
    · exact mysql
    · rw [← same]
      exact holds.recordset online

theorem restarted_sound {db : Db ρ} (sound : Sound db) : Sound ⟨⟨none,false,false⟩,db.redis,db.mysql⟩ :=
  ⟨sound.redis,fun _ => ⟨rfl,rfl⟩⟩

theorem restarted_backed {db : Db ρ} (backed : Backed E db value) : Backed E ⟨⟨none,false,false⟩,db.redis,db.mysql⟩ value :=
  ⟨backed.mysql,fun online => by cases online⟩

theorem restarted_valid (valid : Valid E w value) (safe : UpSafe w true) :
    Valid E {w with alive:=true, db:=⟨⟨none,false,false⟩,w.db.redis,w.db.mysql⟩} value := by
  rcases valid with loaded | cached | stored
  · left
    refine ⟨loaded.recordset,loaded.online,loaded.cache,loaded.kept,restarted_sound loaded.sound,restarted_backed loaded.backed,?_⟩
    intro clean
    have holds := loaded.clean clean
    have mysql := holds.mysql (safe rfl (by rw [loaded.recordset]; rfl) clean)
    exact ⟨holds.stored,fun online => (by cases online),.inl mysql⟩
  · exact .inr (.inl ⟨cached.recordset,cached.updateflag,cached.timer,cached.cache,cached.kept,restarted_sound cached.sound,
      restarted_backed cached.backed⟩)
  · exact .inr (.inr ⟨stored.recordset,stored.updateflag,stored.timer,stored.cache,restarted_sound stored.sound,stored.mysql,
      .inl rfl,rfl⟩)

-- Neither the time nor the way to the db is part of what is valid.
theorem valid_elsewhere (valid : Valid E w value) (alive : Bool) (now : Nat) : Valid E {w with alive:=alive, now:=now} value := by
  rcases valid with loaded | cached | stored
  · exact .inl ⟨loaded.recordset,loaded.online,loaded.cache,loaded.kept,loaded.sound,loaded.backed,loaded.clean⟩
  · exact .inr (.inl ⟨cached.recordset,cached.updateflag,cached.timer,cached.cache,cached.kept,cached.sound,cached.backed⟩)
  · exact .inr (.inr ⟨stored.recordset,stored.updateflag,stored.timer,stored.cache,stored.sound,stored.mysql,stored.memory,
      stored.clean⟩)

-- A role that neither service has loaded.
structure Fresh (w : World ρ) : Prop where
  game : w.game = ⟨none,false,false⟩
  cache : w.cache = none
  timer : w.offlineCacheTimer = false
  db : w.db.toNode = ⟨none,false,false⟩
  redis : ∀ {row}, w.db.redis = some row → w.db.mysql = some row

theorem fresh_valid (fresh : Fresh w) : Valid E w (w.db.mysql.getD E.blank) := by
  have memory : w.db.recordset = none := congrArg Node.recordset fresh.db
  have clean : w.db.updateflag = false := congrArg Node.updateflag fresh.db
  exact .inr (.inr ⟨congrArg Node.recordset fresh.game,congrArg Node.updateflag fresh.game,fresh.timer,fresh.cache,
    ⟨fresh.redis,fun _ => ⟨memory,clean⟩⟩,rfl,.inl memory,clean⟩)

theorem unload_alive (w : World ρ) : (unload E w).alive = w.alive := by
  unfold unload
  split
  · dsimp only
    split <;> rfl
  · split <;> rfl

theorem flush_alive (w : World ρ) : (flush E w).2.alive = w.alive := by
  unfold flush
  split
  · rfl
  · split
    · split <;> rfl
    · rfl

variable [DecidableEq ρ]

-- The row that mysql has arrives in both memories, whatever was there.
theorem fetch_written (alive : w.alive = true) (cache : w.cache = none) (sound : Sound w.db)
    (mysql : w.db.mysql = some value) (some : value ≠ E.blank) : Loaded E (fetch E w) value := by
  obtain ⟨sound,online,stays,_,answer,recordset⟩ := load_spec E sound
  have kept : kept E value = true := by simp only [RoleStore.kept,some,ne_eq,not_false_eq_true,decide_true,Bool.or_true]
  rw [mysql] at recordset stays
  simp only [kept,if_true] at recordset
  rw [recordset] at answer
  unfold fetch
  generalize w.db.load E = pair at sound online stays recordset answer ⊢
  obtain ⟨row,db⟩ := pair
  dsimp only at sound online stays recordset answer
  subst answer
  simp only [alive,if_true,some,ne_eq,not_false_eq_true]
  refine ⟨rfl,rfl,cache,some,sound,⟨⟨value,stays,E.merge_self value⟩,?_⟩,fun _ => ⟨?_,fun _ => recordset,.inl stays⟩⟩
  · intro _
    exact ⟨value,recordset,E.merge_self value⟩
  · change db.mysql.isSome = true
    rw [stays]
    rfl

-- A blank row is not kept in the memory of the game.
theorem fetch_blank (alive : w.alive = true) (stored : Stored E w E.blank) : Stored E (fetch E w) E.blank := by
  obtain ⟨sound,online,stays,flag,answer,recordset⟩ := load_spec E stored.sound
  have memory : (w.db.load E).2.recordset = none ∨ (w.db.load E).2.recordset = w.db.mysql := by
    rw [recordset]
    split
    · split
      · exact .inr (Eq.symm ‹w.db.mysql = _›)
      · exact stored.memory
    · exact stored.memory
  have answer : (w.db.load E).1 = none ∨ (w.db.load E).1 = some E.blank := by
    rw [answer]
    rcases memory with missing | same
    · exact .inl missing
    · rw [same]
      have blank := stored.mysql
      cases held : w.db.mysql with
      | none => exact .inl rfl
      | some row =>
        rw [held] at blank
        exact .inr (congrArg some blank)
  unfold fetch
  rw [alive,if_pos rfl]
  rw [← stays] at memory
  generalize w.db.load E = pair at sound stays flag memory answer ⊢
  obtain ⟨row,db⟩ := pair
  dsimp only at sound stays flag memory answer ⊢
  refine ⟨?_,stored.updateflag,stored.timer,stored.cache,sound,?_,memory,flag.trans stored.clean⟩
  · rcases answer with rfl | rfl
    · exact stored.recordset
    · simpa only [ne_eq,not_true_eq_false,if_false] using stored.recordset
  · change db.mysql.getD E.blank = E.blank
    rw [stays]
    exact stored.mysql

theorem fetch_stored (alive : w.alive = true) (stored : Stored E w value) :
    (Loaded E (fetch E w) value ∨ Stored E (fetch E w) value) ∧ view E (fetch E w) = value := by
  by_cases blank : value = E.blank
  · subst blank
    have done := fetch_blank alive stored
    refine ⟨.inr done,?_⟩
    unfold view
    rw [done.recordset]
    rfl
  · have mysql : w.db.mysql = some value := by
      have same := stored.mysql
      cases held : w.db.mysql with
      | none =>
        rw [held] at same
        exact absurd same.symm blank
      | some row =>
        rw [held] at same
        exact congrArg some same
    have done := fetch_written alive stored.cache stored.sound mysql blank
    exact ⟨.inl done,view_loaded done⟩

-- With the db away Load only marks the role online.
theorem fetch_away (away : w.alive = false) : fetch E w = {w with game.online:=true} := by
  simp only [fetch,away,Bool.false_eq_true,if_false]

-- A Load reads mysql over what either service still has to write.
def LoadSafe (E : Entity ρ χ ι) (w : World ρ) : Prop :=
  (w.game.recordset.isSome = true → w.offlineCacheTimer = true ∨ Clean w) ∧
  (w.cache.isSome = true → E.kind = .single → w.db.online = false)

theorem load_uncached (cache : w.cache = none) :
    load E w = (true,fetch E (if w.offlineCacheTimer then unload E {w with offlineCacheTimer:=false} else w)) := by
  simp only [load,flush,cache]

theorem load_alive (valid : Valid E w value) (alive : w.alive = true) (safe : LoadSafe E w) :
    (load E w).1 = true ∧ (Loaded E (load E w).2 value ∨ Stored E (load E w).2 value) ∧ view E (load E w).2 = value := by
  rcases valid with loaded | cached | stored
  · rw [load_uncached loaded.cache]
    cases timer : w.offlineCacheTimer with
    | true =>
      have again : Loaded E {w with offlineCacheTimer:=false} value :=
        ⟨loaded.recordset,loaded.online,loaded.cache,loaded.kept,loaded.sound,loaded.backed,loaded.clean⟩
      have done := unload_loaded again
      rw [if_pos alive] at done
      refine ⟨rfl,fetch_stored ?_ done⟩
      simp only [unload,loaded.recordset,alive,if_true]
    | false =>
      have clean : Clean w := by
        rcases safe.1 (by rw [loaded.recordset]; rfl) with on | clean
        · rw [timer] at on
          cases on
        · exact clean
      have mysql := (loaded.clean clean.1).clean clean.2
      have done := fetch_written alive loaded.cache loaded.sound mysql loaded.kept
      exact ⟨rfl,.inl done,view_loaded done⟩
  · obtain ⟨expireTime,held⟩ := cached.cache
    obtain ⟨answer,sound,_,_,_,mysql⟩ := receive_backed cached.sound cached.backed (pushes_whole E)
    have mysql := mysql (by
      cases kind : E.kind with
      | multi => exact .inl (pushes_whole E kind)
      | single => exact .inr (safe.2 (by rw [held]; rfl) kind))
    have same : load E w = (true,fetch E {w with db:=(w.db.receive E (pushes E) value).2,cache:=none}) := by
      unfold load flush
      rw [held,alive]
      dsimp only
      generalize w.db.receive E (pushes E) value = pair at answer ⊢
      obtain ⟨done,db⟩ := pair
      cases answer
      simp only [cached.timer,if_true,Bool.false_eq_true,if_false]
    rw [same]
    have done := fetch_written (w:={w with db:=(w.db.receive E (pushes E) value).2,cache:=none}) alive rfl sound mysql cached.kept
    exact ⟨rfl,.inl done,view_loaded done⟩
  · rw [load_uncached stored.cache,stored.timer]
    exact ⟨rfl,fetch_stored alive stored⟩

theorem load_away (valid : Valid E w value) (away : w.alive = false) : Valid E (load E w).2 value := by
  unfold load flush
  cases held : w.cache with
  | some entry =>
    obtain ⟨row,expireTime⟩ := entry
    simp only [away,Bool.false_eq_true,if_false]
    exact valid
  | none =>
    dsimp only
    split
    · have still : (unload E {w with offlineCacheTimer:=false}).alive = false := by
        unfold unload
        dsimp only
        split
        · simp only [away,Bool.false_eq_true,if_false]
        · split <;> exact away
      rw [fetch_away still]
      apply away_valid
      apply unload_valid
      rcases valid with loaded | cached | stored
      · exact .inl ⟨loaded.recordset,loaded.online,loaded.cache,loaded.kept,loaded.sound,loaded.backed,loaded.clean⟩
      · exact .inr (.inl ⟨cached.recordset,cached.updateflag,rfl,cached.cache,cached.kept,cached.sound,cached.backed⟩)
      · exact .inr (.inr ⟨stored.recordset,stored.updateflag,rfl,stored.cache,stored.sound,stored.mysql,stored.memory,
          stored.clean⟩)
    · rw [fetch_away away]
      exact away_valid valid

theorem load_valid (valid : Valid E w value) (safe : w.alive = true → LoadSafe E w) : Valid E (load E w).2 value := by
  cases alive : w.alive with
  | true =>
    rcases (load_alive valid alive (safe alive)).2.1 with loaded | stored
    · exact .inl loaded
    · exact .inr (.inr stored)
  | false => exact load_away valid alive

theorem get_valid (valid : Valid E w value) (safe : w.game.recordset = none → w.alive = true → LoadSafe E w) :
    Valid E (get E w).2 value := by
  unfold get
  cases held : w.game.recordset with
  | some row => exact valid
  | none =>
    have done := load_valid valid (safe held)
    dsimp only [Option.isSome_none,Bool.false_eq_true]
    rw [if_neg Bool.false_ne_true]
    generalize load E w = pair at done ⊢
    obtain ⟨answer,next⟩ := pair
    cases answer with
    | false => exact done
    | true =>
      dsimp only at done ⊢
      split
      · rcases done with loaded | cached | stored
        · exact .inl ⟨loaded.recordset,loaded.online,loaded.cache,loaded.kept,loaded.sound,loaded.backed,loaded.clean⟩
        · rw [cached.recordset] at *
          contradiction
        · rw [stored.recordset] at *
          contradiction
      · exact done

def Safe (E : Entity ρ χ ι) (w : World ρ) : Op χ ι → Prop
  | .load => w.alive = true → LoadSafe E w
  | .get => w.game.recordset = none → w.alive = true → LoadSafe E w
  | .set _ => w.game.recordset = none → SetSafe E w
  | .add _ => w.game.recordset = none → AddSafe E w
  | .save noSave => SaveSafe E w noSave
  | .cacheSave => CacheSaveSafe E w
  | .up restarted => UpSafe w restarted
  | .unload | .offlineTimer | .down | .wait _ => True

theorem apply_valid (valid : Valid E w value) (op : Op χ ι) (safe : Safe E w op) : Valid E (op.apply E w) (op.record E w value) := by
  cases op with
  | load => exact load_valid valid safe
  | get => exact get_valid valid safe
  | set c => exact set_valid valid safe c
  | add i => exact add_valid valid safe i
  | save noSave => exact save_valid valid safe
  | unload => exact unload_valid valid
  | offlineTimer =>
    change Valid E (offlineTimer E w) value
    unfold offlineTimer
    split
    · exact unload_valid valid
    · exact valid
  | cacheSave => exact cacheSave_valid valid safe
  | down => exact valid_elsewhere valid false w.now
  | up restarted =>
    cases restarted with
    | true => exact restarted_valid valid safe
    | false => exact valid_elsewhere valid true w.now
  | wait seconds => exact valid_elsewhere valid w.alive (w.now+seconds)

theorem load_stays (w : World ρ) : (load E w).2.alive = w.alive := by
  rw [← flush_alive w]
  unfold load
  split
  · next same => rw [same]
  · next same =>
    rw [same]
    change (if _ then _ else _ : World ρ).alive = _
    split
    · exact unload_alive _
    · rfl

-- Get finds what Load has brought, and asks once more for a role without rows.
theorem get_found (valid : Loaded E w value ∨ Stored E w value) (alive : w.alive = true) :
    (get E w).1 = true ∧ view E (get E w).2 = value := by
  unfold get
  rcases valid with loaded | stored
  · rw [loaded.recordset]
    exact ⟨rfl,view_loaded loaded⟩
  · have safe : LoadSafe E w := by
      refine ⟨fun held => ?_,fun held => ?_⟩
      · rw [stored.recordset] at held
        cases held
      · rw [stored.cache] at held
        cases held
    obtain ⟨answer,_,found⟩ := load_alive (.inr (.inr stored)) alive safe
    rw [stored.recordset]
    dsimp only [Option.isSome_none]
    rw [if_neg Bool.false_ne_true]
    generalize load E w = pair at answer found ⊢
    obtain ⟨done,next⟩ := pair
    cases answer
    refine ⟨rfl,?_⟩
    dsimp only at found ⊢
    split <;> exact found

theorem store_refines_map (fresh : Fresh w) (path : Runs (Guarded (Acts E) (fun state op => Safe E state.1 op))
    (w,w.db.mysql.getD E.blank) ops after) (alive : after.1.alive = true) (safe : Safe E after.1 (.load : Op χ ι)) :
    (load E after.1).1 = true ∧ (get E (load E after.1).2).1 = true ∧ view E (get E (load E after.1).2).2 = after.2 := by
  have kept (before op next) (valid : Valid E before.1 before.2)
      (step : Guarded (Acts E) (fun state op => Safe E state.1 op) before op next) : Valid E next.1 next.2 := by
    obtain ⟨same,safe⟩ := step
    rw [same]
    exact apply_valid valid op safe
  have valid := Runs.invariant kept path (fresh_valid fresh)
  obtain ⟨answer,valid,_⟩ := load_alive valid alive (safe alive)
  exact ⟨answer,get_found valid ((load_stays _).trans alive)⟩

end Store

section Runs

inductive ItemField where
  | itemId | overlay
  deriving DecidableEq

abbrev items := multi Nat ItemField Nat

-- One stack of item 7 under index 1.
def stack (overlay : Nat) : Rows Nat ItemField Nat :=
  Finmap.singleton 1 ((Finmap.singleton ItemField.itemId 7).insert ItemField.overlay overlay)

def absent : World (Rows Nat ItemField Nat) := ⟨⟨none,false,false⟩,none,false,⟨⟨none,false,false⟩,none,some (stack 1)⟩,true,0⟩

def put (overlay : Nat) : Op (Nat × Record ItemField Nat) (Nat × Record ItemField Nat) :=
  .set (1,Finmap.singleton ItemField.overlay overlay)

def stateAfter (ops : List (Op (Nat × Record ItemField Nat) (Nat × Record ItemField Nat))) :=
  ops.foldl (fun state op => (op.apply items state.1,op.record items state.1 state.2)) (absent,stack 1)

theorem absent_fresh : Fresh absent := ⟨rfl,rfl,rfl,rfl,fun found => by cases found⟩

def unsaved : List (Op (Nat × Record ItemField Nat) (Nat × Record ItemField Nat)) := [.load,put 2,.save true,.unload]

-- The db refuses an Update of a whole row without saveFlag, and Save clears the flag all the same.
theorem noSave_loses_set : Fresh absent ∧
    Runs (Acts items) (absent,absent.db.mysql.getD items.blank) unsaved (stateAfter unsaved) ∧
    (load items (stateAfter unsaved).1).1 = true ∧
    view items (get items (load items (stateAfter unsaved).1).2).2 = stack 1 ∧
    (stateAfter unsaved).2 = stack 2 ∧ stack 1 ≠ stack 2 := by
  refine ⟨absent_fresh,.more rfl (.more rfl (.more rfl (.more rfl .done))),?_⟩
  decide

def outage : List (Op (Nat × Record ItemField Nat) (Nat × Record ItemField Nat)) :=
  [.load,put 2,.save false,put 3,.down,.unload,.up false]

theorem outage_survived : (load items (stateAfter outage).1).1 = true ∧
    (get items (load items (stateAfter outage).1).2).1 = true ∧
    view items (get items (load items (stateAfter outage).1).2).2 = (stateAfter outage).2 := by
  have path : Runs (Guarded (Acts items) (fun state op => Safe items state.1 op)) (absent,absent.db.mysql.getD items.blank)
      outage (stateAfter outage) := by
    refine .more ⟨rfl,?_⟩ (.more ⟨rfl,?_⟩ (.more ⟨rfl,?_⟩ (.more ⟨rfl,?_⟩ (.more ⟨rfl,trivial⟩ (.more ⟨rfl,trivial⟩
      (.more ⟨rfl,?_⟩ .done))))))
    · intro _
      unfold LoadSafe Clean
      decide
    · intro missing
      exact absurd missing (by decide)
    · intro _ _
      decide
    · intro missing
      exact absurd missing (by decide)
    · intro restarted
      cases restarted
  refine store_refines_map absent_fresh path (by decide) ?_
  intro _
  unfold LoadSafe Clean
  decide

end Runs
end OriginGame.RoleStore
