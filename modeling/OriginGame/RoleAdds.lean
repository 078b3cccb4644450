import OriginGame.RoleDeletes

namespace OriginGame.RoleStore

section Add
variable {κ φ ν : Type} [DecidableEq κ] [DecidableEq φ] [DecidableEq ν]
variable (i : κ × Record φ ν) (value : Rows κ φ ν)

-- The rows are in the memory of the game.
structure InMemory (w : World (Rows κ φ ν)) : Prop where
  recordset : w.game.recordset = some value
  online : w.game.online = true
  cache : w.cache = none
  sound : Sound w.db
  mysql : w.db.mysql.isSome = true
  db : w.db.online = true → w.db.recordset.isSome = true

-- What the next session of the role begins with.
def session (w : World (Rows κ φ ν)) : World (Rows κ φ ν) := (get (multi κ φ ν) (load (multi κ φ ν) (unload (multi κ φ ν) w)).2).2

-- A Get and the next session find the new row and all the old ones.
def Added (w : World (Rows κ φ ν)) : Prop :=
  view (multi κ φ ν) (get (multi κ φ ν) (add (multi κ φ ν) i w).2).2 = value.insert i.1 i.2 ∧
    view (multi κ φ ν) (session (add (multi κ φ ν) i w).2) = value.insert i.1 i.2

structure DbInMemory (db : Db (Rows κ φ ν)) : Prop where
  recordset : db.recordset = some value
  mysql : db.mysql.isSome = true

structure DbStored (db : Db (Rows κ φ ν)) : Prop where
  recordset : db.recordset = none
  sound : Sound db
  mysql : db.mysql.getD ∅ = value

-- The same for an Add at the db service.
def DbAdded (db : Db (Rows κ φ ν)) : Prop :=
  ((db.add (multi κ φ ν) i).2.get (multi κ φ ν)).getD ∅ = value.insert i.1 i.2 ∧
    ((((db.add (multi κ φ ν) i).2.unload (multi κ φ ν)).load (multi κ φ ν)).1).getD ∅ = value.insert i.1 i.2

-- An online role without a record in memory starts over from the new row.
def Complete (w : World (Rows κ φ ν)) : Prop :=
  w.game.recordset.isSome = true ∨
    if w.game.online then (∅ : Rows κ φ ν).insert i.1 i.2 = value.insert i.1 i.2
    else w.db.online = false ∨ value.insert i.1 i.2 = value

def DbComplete (db : Db (Rows κ φ ν)) : Prop :=
  db.recordset.isSome = true ∨ db.online = false ∨ (∅ : Rows κ φ ν).insert i.1 i.2 = value.insert i.1 i.2

end Add

-- What the db service holds of the role is what the database has.
theorem stored_held {db : Db ρ} (memory : db.recordset = none ∨ db.recordset = db.mysql) (held : db.recordset = some row) : db.mysql = some row :=
  (memory.resolve_left (by rw [held]; exact Option.some_ne_none _)).symm.trans held

section Proofs
variable {κ φ ν : Type} [DecidableEq κ] [DecidableEq φ]
variable {i : κ × Record φ ν} {value : Rows κ φ ν} {w : World (Rows κ φ ν)} {db : Db (Rows κ φ ν)}

theorem multi_kind : (multi κ φ ν).kind = .multi := rfl

theorem backed_whole (mysql : db.mysql.isSome = true) (memory : db.online = true → db.recordset.isSome = true) (value : Rows κ φ ν) :
    Backed (multi κ φ ν) db value := by
  obtain ⟨old,stored⟩ := Option.isSome_iff_exists.mp mysql
  refine ⟨⟨old,stored,rfl⟩,fun on => ?_⟩
  obtain ⟨row,held⟩ := Option.isSome_iff_exists.mp (memory on)
  exact ⟨row,held,rfl⟩

-- Whatever the db service has of the role, after an Add it has a row to write to.
theorem add_backed (sound : Sound db) (memory : db.recordset = none ∨ db.recordset = db.mysql) (i : κ × Record φ ν) :
    Sound (db.add (multi κ φ ν) i).2 ∧ (db.add (multi κ φ ν) i).2.mysql.isSome = true ∧
      ((db.add (multi κ φ ν) i).2.online = true → (db.add (multi κ φ ν) i).2.recordset.isSome = true) := by
  cases online : db.online with
  | false =>
    obtain ⟨sound,node,mysql⟩ := add_written (E:=multi κ φ ν) rfl sound online i
    refine ⟨sound,by rw [mysql]; rfl,fun on => ?_⟩
    rw [congrArg Node.online node,online] at on
    cases on
  | true =>
    unfold Db.add
    rw [multi_kind]
    dsimp only
    cases held : db.recordset with
    | some rows =>
      have mysql := stored_held memory held
      refine ⟨⟨sound.redis,fun off => ?_⟩,?_,fun _ => rfl⟩
      · rw [show _ = true from online] at off
        cases off
      · dsimp only
        rw [mysql]
        rfl
    | none =>
      rw [online,if_pos rfl]
      unfold addRole
      dsimp only
      cases stored : db.mysql with
      | none =>
        rw [if_neg (by rw [Option.isSome_none]; exact Bool.false_ne_true)]
        exact ⟨⟨fun found => found,fun off => Bool.noConfusion off⟩,rfl,fun _ => rfl⟩
      | some old =>
        rw [if_pos (by rw [Option.isSome_some])]
        refine ⟨⟨fun found => stored ▸ sound.redis found,fun off => Bool.noConfusion off⟩,rfl,fun _ => rfl⟩

-- A db service that has the role keeps the new row to itself.
theorem add_unwritten (memory : db.recordset = none ∨ db.recordset = db.mysql) (online : db.online = true) (i : κ × Record φ ν) :
    (db.add (multi κ φ ν) i).2.mysql = some (db.mysql.getD ∅) := by
  unfold Db.add
  rw [multi_kind]
  dsimp only
  cases held : db.recordset with
  | some rows =>
    have mysql := stored_held memory held
    dsimp only
    rw [mysql]
    rfl
  | none =>
    rw [online,if_pos rfl]
    unfold addRole
    dsimp only
    cases stored : db.mysql with
    | none =>
      rw [if_neg (by rw [Option.isSome_none]; exact Bool.false_ne_true)]
      rfl
    | some old =>
      rw [if_pos (by rw [Option.isSome_some])]
      rfl

variable [DecidableEq ν]

-- A record in memory is found as it is, also in the next session.
theorem loaded_added (loaded : Loaded (multi κ φ ν) w value) (alive : w.alive = true) :
    view (multi κ φ ν) (get (multi κ φ ν) w).2 = value ∧ view (multi κ φ ν) (session w) = value := by
  refine ⟨(get_found (.inl loaded) alive).2,?_⟩
  have stored := unload_loaded loaded
  rw [if_pos alive] at stored
  have there : (unload (multi κ φ ν) w).alive = true := (unload_alive w).trans alive
  have safe : LoadSafe (multi κ φ ν) (unload (multi κ φ ν) w) := by
    refine ⟨fun held => ?_,fun held => ?_⟩
    · rw [stored.recordset] at held
      cases held
    · rw [stored.cache] at held
      cases held
  obtain ⟨_,valid,_⟩ := load_alive (.inr (.inr stored)) there safe
  exact (get_found valid ((load_stays _).trans there)).2

theorem inMemory_added (held : InMemory value w) (alive : w.alive = true) : Added i value w := by
  have same : (add (multi κ φ ν) i w).2 = {w with game.recordset:=some (value.insert i.1 i.2), game.updateflag:=true} := by
    unfold add
    rw [held.recordset]
    rfl
  unfold Added
  rw [same]
  exact loaded_added ⟨rfl,held.online,held.cache,(multi κ φ ν).insert_kept i value,held.sound,backed_whole held.mysql held.db _,
    fun clean => Bool.noConfusion clean⟩ alive

theorem online_added (stored : Stored (multi κ φ ν) w value) (online : w.game.online = true) (alive : w.alive = true) :
    Added i value w ↔ (∅ : Rows κ φ ν).insert i.1 i.2 = value.insert i.1 i.2 := by
  have same : (add (multi κ φ ν) i w).2 =
      {w with db:=(w.db.add (multi κ φ ν) i).2, game.recordset:=some ((∅ : Rows κ φ ν).insert i.1 i.2), game.updateflag:=true} := by
    unfold add
    rw [stored.recordset]
    rw [multi_kind]
    dsimp only
    rw [if_pos alive,if_pos online]
    rfl
  obtain ⟨sound,mysql,memory⟩ := add_backed stored.sound stored.memory i
  have loaded : Loaded (multi κ φ ν) (add (multi κ φ ν) i w).2 ((∅ : Rows κ φ ν).insert i.1 i.2) := by
    rw [same]
    exact ⟨rfl,online,stored.cache,(multi κ φ ν).insert_kept i ∅,sound,backed_whole mysql memory _,fun clean => Bool.noConfusion clean⟩
  have there : (add (multi κ φ ν) i w).2.alive = true := by
    rw [same]
    exact alive
  obtain ⟨found,again⟩ := loaded_added loaded there
  unfold Added
  rw [found,again,and_self]

-- No service but mysql is sure to have the rows.
structure Asleep (m : Rows κ φ ν) (w : World (Rows κ φ ν)) : Prop where
  recordset : w.game.recordset = none
  cache : w.cache = none
  timer : w.offlineCacheTimer = false
  alive : w.alive = true
  sound : Sound w.db
  mysql : w.db.mysql = some m

theorem load_asleep {m : Rows κ φ ν} (asleep : Asleep m w) : (load (multi κ φ ν) w).1 = true ∧
    ((load (multi κ φ ν) w).2.game.recordset = some m ∨ m = ∅ ∧ Asleep m (load (multi κ φ ν) w).2) := by
  obtain ⟨sound,_,mysql,_,answer,recordset⟩ := load_spec (multi κ φ ν) asleep.sound
  rw [asleep.mysql] at recordset mysql
  have brought : (w.db.load (multi κ φ ν)).1 = some m := answer.trans recordset
  rw [load_uncached asleep.cache,asleep.timer,if_neg Bool.false_ne_true]
  refine ⟨rfl,?_⟩
  unfold fetch
  rw [if_pos asleep.alive,asleep.recordset]
  dsimp only
  rw [brought]
  by_cases blank : m = ∅
  · subst blank
    have none : (if (∅ : Rows κ φ ν) ≠ (multi κ φ ν).blank then some (∅ : Rows κ φ ν) else none) = none := if_neg (not_not.mpr rfl)
    exact .inr ⟨rfl,none,asleep.cache,asleep.timer,asleep.alive,sound,mysql⟩
  · exact .inl (if_pos blank)

theorem get_asleep {m : Rows κ φ ν} (asleep : Asleep m w) : view (multi κ φ ν) (get (multi κ φ ν) w).2 = m := by
  obtain ⟨done,brought⟩ := load_asleep asleep
  have found : view (multi κ φ ν) (load (multi κ φ ν) w).2 = m := by
    unfold view
    rcases brought with held | ⟨rfl,again⟩
    · rw [held]
      rfl
    · rw [again.recordset]
      rfl
  unfold get
  rw [asleep.recordset,Option.isSome_none,if_neg Bool.false_ne_true]
  generalize load (multi κ φ ν) w = pair at done found ⊢
  obtain ⟨answer,after⟩ := pair
  dsimp only at done found ⊢
  subst done
  dsimp only
  split <;> exact found

theorem session_asleep {m : Rows κ φ ν} (asleep : Asleep m w) : view (multi κ φ ν) (session w) = m := by
  have unloaded : Asleep m (unload (multi κ φ ν) w) := by
    unfold unload
    rw [asleep.recordset]
    exact ⟨asleep.recordset,asleep.cache,asleep.timer,asleep.alive,asleep.sound,asleep.mysql⟩
  unfold session
  rcases (load_asleep unloaded).2 with held | ⟨_,again⟩
  · unfold get view
    rw [held,Option.isSome_some,if_pos rfl,held]
    rfl
  · exact get_asleep again

theorem offline_added (stored : Stored (multi κ φ ν) w value) (offline : w.game.online = false) (alive : w.alive = true) :
    Added i value w ↔ w.db.online = false ∨ value.insert i.1 i.2 = value := by
  have same : (add (multi κ φ ν) i w).2 = {w with db:=(w.db.add (multi κ φ ν) i).2} := by
    unfold add
    rw [stored.recordset]
    rw [multi_kind]
    dsimp only
    rw [if_pos alive,offline,if_neg Bool.false_ne_true]
  have asleep : ∀ m, Sound (w.db.add (multi κ φ ν) i).2 → (w.db.add (multi κ φ ν) i).2.mysql = some m → Asleep m (add (multi κ φ ν) i w).2 := by
    intro m sound mysql
    rw [same]
    exact ⟨stored.recordset,stored.cache,stored.timer,alive,sound,mysql⟩
  unfold Added
  cases online : w.db.online with
  | false =>
    obtain ⟨sound,_,mysql⟩ := add_written (E:=multi κ φ ν) rfl stored.sound online i
    rw [stored.mysql] at mysql
    have there := asleep _ sound mysql
    exact ⟨fun _ => .inl rfl,fun _ => ⟨get_asleep there,session_asleep there⟩⟩
  | true =>
    obtain ⟨sound,_⟩ := add_backed stored.sound stored.memory i
    have mysql := add_unwritten stored.memory online i
    have rows : w.db.mysql.getD ∅ = value := stored.mysql
    rw [rows] at mysql
    have there := asleep _ sound mysql
    rw [get_asleep there,session_asleep there,and_self]
    exact ⟨fun found => .inr found.symm,fun kept => (kept.resolve_left (by decide)).symm⟩

-- A dirty record of the db service is what its Get and its next Load find.
theorem db_dirty (db : Db (Rows κ φ ν)) {rows : Rows κ φ ν} (recordset : db.recordset = some rows) (updateflag : db.updateflag = true) (mysql : db.mysql.isSome = true) :
    db.get (multi κ φ ν) = some rows ∧ ((db.unload (multi κ φ ν)).load (multi κ φ ν)).1 = some rows := by
  obtain ⟨old,stored⟩ := Option.isSome_iff_exists.mp mysql
  constructor
  · unfold Db.get
    rw [recordset]
  · unfold Db.unload
    rw [recordset]
    dsimp only
    rw [if_pos updateflag]
    unfold updateRole Db.load loadRole
    dsimp only
    rw [stored]
    rfl

theorem db_written {rows : Rows κ φ ν} (offline : db.online = false) (sound : Sound db) (mysql : db.mysql = some rows) :
    db.get (multi κ φ ν) = some rows ∧ ((db.unload (multi κ φ ν)).load (multi κ φ ν)).1 = some rows := by
  have loads : ∀ db : Db (Rows κ φ ν), Sound db → db.mysql = some rows → (db.load (multi κ φ ν)).1 = some rows := by
    intro db sound mysql
    obtain ⟨_,_,_,_,answer,recordset⟩ := load_spec (multi κ φ ν) sound
    rw [mysql] at recordset
    exact answer.trans recordset
  obtain ⟨recordset,updateflag⟩ := sound.offline offline
  constructor
  · unfold Db.get
    rw [recordset]
    exact loads db sound mysql
  · have same : db.unload (multi κ φ ν) = {db with online:=false} := by
      unfold Db.unload
      rw [recordset]
      rfl
    rw [same]
    exact loads {db with online:=false} ⟨sound.redis,fun _ => ⟨recordset,updateflag⟩⟩ mysql

theorem dbInMemory_added (held : DbInMemory value db) : DbAdded i value db := by
  have same : (db.add (multi κ φ ν) i).2 = {db with recordset:=some (value.insert i.1 i.2), updateflag:=true} := by
    unfold Db.add
    rw [held.recordset]
    rfl
  unfold DbAdded
  rw [same]
  obtain ⟨found,again⟩ := db_dirty {db with recordset:=some (value.insert i.1 i.2), updateflag:=true} rfl rfl held.mysql
  rw [found,again]
  exact ⟨rfl,rfl⟩

theorem dbOnline_added (stored : DbStored value db) (online : db.online = true) :
    DbAdded i value db ↔ (∅ : Rows κ φ ν).insert i.1 i.2 = value.insert i.1 i.2 := by
  have mysql := add_unwritten (.inl stored.recordset) online i
  have memory : (db.add (multi κ φ ν) i).2.recordset = some ((∅ : Rows κ φ ν).insert i.1 i.2) ∧ (db.add (multi κ φ ν) i).2.updateflag = true := by
    unfold Db.add
    rw [multi_kind]
    dsimp only
    rw [stored.recordset,online,if_pos rfl]
    unfold addRole
    dsimp only
    split <;> exact ⟨rfl,rfl⟩
  obtain ⟨found,again⟩ := db_dirty _ memory.1 memory.2 (by rw [mysql]; rfl)
  unfold DbAdded
  rw [found,again,and_self]
  exact Iff.rfl

theorem dbOffline_added (stored : DbStored value db) (offline : db.online = false) : DbAdded i value db := by
  obtain ⟨sound,node,mysql⟩ := add_written (E:=multi κ φ ν) rfl stored.sound offline i
  obtain ⟨found,again⟩ := db_written ((congrArg Node.online node).trans offline) sound mysql
  have rows : db.mysql.getD ∅ = value := stored.mysql
  unfold DbAdded
  rw [found,again]
  change (db.mysql.getD ∅).insert i.1 i.2 = _ ∧ (db.mysql.getD ∅).insert i.1 i.2 = _
  rw [rows]
  exact ⟨rfl,rfl⟩

theorem add_same (i : κ × Record φ ν) (held : InMemory value w ∨ Stored (multi κ φ ν) w value) (alive : w.alive = true)
    (dbHeld : DbInMemory value db ∨ DbStored value db) :
    (Added i value w ↔ Complete i value w) ∧ (DbAdded i value db ↔ DbComplete i value db) := by
  constructor
  · unfold Complete
    rcases held with held | stored
    · rw [held.recordset]
      exact ⟨fun _ => .inl rfl,fun _ => inMemory_added held alive⟩
    · rw [stored.recordset,Option.isSome_none]
      cases online : w.game.online with
      | true => exact (online_added stored online alive).trans ⟨.inr,fun complete => complete.resolve_left Bool.false_ne_true⟩
      | false => exact (offline_added stored online alive).trans ⟨.inr,fun complete => complete.resolve_left Bool.false_ne_true⟩
  · unfold DbComplete
    rcases dbHeld with held | stored
    · rw [held.recordset]
      exact ⟨fun _ => .inl rfl,fun _ => dbInMemory_added held⟩
    · rw [stored.recordset,Option.isSome_none]
      cases online : db.online with
      | false => exact ⟨fun _ => .inr (.inl rfl),fun _ => dbOffline_added stored online⟩
      | true =>
        exact (dbOnline_added stored online).trans
          ⟨fun same => .inr (.inr same),fun complete => (complete.resolve_left Bool.false_ne_true).resolve_left (by decide)⟩

end Proofs

def second : Nat × Record ItemField Nat := (2,Finmap.singleton ItemField.itemId 9)

theorem absent_stored : Stored items absent (stack 1) :=
  ⟨rfl,rfl,rfl,rfl,⟨fun found => absurd found (Option.some_ne_none _).symm,fun _ => ⟨rfl,rfl⟩⟩,rfl,.inl rfl,rfl⟩

theorem absent_added : Added second (stack 1) absent ∧ DbAdded second (stack 1) absent.db := by
  have both := add_same (w:=absent) second (.inr absent_stored) rfl (.inr ⟨rfl,absent_stored.sound,rfl⟩)
  exact ⟨both.1.mpr (.inr (Or.inl rfl)),both.2.mpr (.inr (.inl rfl))⟩

-- The role loaded while the db service was away.
def unread : World (Rows Nat ItemField Nat) := (load items {absent with alive:=false}).2

-- The second stack is then all there is, and the next UnLoad writes just that.
theorem unread_loses : Stored items {unread with alive:=true} (stack 1) ∧ ¬ Added second (stack 1) {unread with alive:=true} ∧
    view items (get items (add items second {unread with alive:=true}).2).2 = (∅ : Rows Nat ItemField Nat).insert second.1 second.2 := by
  refine ⟨⟨rfl,rfl,rfl,rfl,absent_stored.sound,rfl,.inl rfl,rfl⟩,?_,by decide⟩
  intro added
  exact absurd added.1 (by decide)

end OriginGame.RoleStore
