import OriginGame.RoleStoreRefinement

namespace OriginGame.RoleStore

section Delete
variable {ρ χ ι : Type} [DecidableEq ρ] (E : Entity ρ χ ι)

-- delMysqlImpl with a statement that succeeds; it ends without an answer.
def delRole (db : Db ρ) : Option Bool × Db ρ := (none,{db with redis:=none, mysql:=none})

-- Delete of the whole record at the db service. A multi Delete that finds one in memory answers true in any case.
def Db.delete (db : Db ρ) : Option Bool × Db ρ :=
  let (ret,db') := delRole db
  let db' := if ret = some true then {db' with recordset:=none} else db'
  match E.kind with
  | .single => (ret,db')
  | .multi => if db.recordset.isSome then (some true,db') else (none,db')

def delete (w : World ρ) : World ρ :=
  if w.alive then
    let (ret,db) := w.db.delete E
    {w with db:=db, game.recordset:=if ret = some true then none else w.game.recordset}
  else w

-- What Get of the db service finds.
def Db.get (db : Db ρ) : Option ρ :=
  match db.recordset with
  | some row => some row
  | none => (db.load E).1

def Op.writes : Op χ ι → Bool
  | .save _ | .unload | .offlineTimer => true
  | _ => false

-- A Save or an UnLoad, also the one of the timer.
def Later (w : World ρ) (op : Op χ ι) (after : World ρ) : Prop := op.writes = true ∧ after = op.apply E w

-- Neither redis nor mysql has the row.
def Missing (db : Db ρ) : Prop := db.redis = none ∧ db.mysql = none

-- Nothing is read afterwards, and nothing is written back.
def Deleted (w : World ρ) : Prop :=
  view E (get E (delete E w)).2 = E.blank ∧ ∀ ops last, Runs (Later E) (delete E w) ops last → Missing last.db

-- The same at the db service, whose Save does nothing.
def DbDeleted (db : Db ρ) : Prop :=
  ((db.delete E).2.get E).getD E.blank = E.blank ∧ Missing ((db.delete E).2.unload E)

-- The record the game still has in memory after the call.
def left (w : World ρ) : Option ρ := if E.kind = .multi ∧ w.db.recordset.isSome then none else w.game.recordset

-- What a Load gets from the memory of the db service once the row in the cache of the game has been sent.
def brought (w : World ρ) : Option ρ :=
  match w.cache with
  | none => w.db.recordset
  | some (row,_) => if w.db.online then w.db.recordset.map (E.merge row) else if E.kind = .multi then none else w.db.recordset

-- The game would send its record and the db service would write it.
def Dirty (w : World ρ) : Prop := w.game.updateflag = true ∧ w.db.online = true ∧ (E.kind = .multi ∨ w.db.recordset.isSome = true)

structure Forgotten (w : World ρ) : Prop where
  empty : ((left E w).or (brought E w)).getD E.blank = E.blank
  clean : (left E w).isSome = true → ¬ Dirty E w

end Delete

section Proofs
variable {ρ χ ι : Type} {E : Entity ρ χ ι} {w : World ρ} {db : Db ρ}

theorem loadRole_missing (missing : Missing db) : loadRole db = (none,db) := by
  obtain ⟨⟨recordset,online,updateflag⟩,redis,mysql⟩ := db
  obtain ⟨rfl,rfl⟩ := missing
  rfl

theorem delete_db (E : Entity ρ χ ι) (db : Db ρ) : (db.delete E).2 = {db with redis:=none, mysql:=none} := by
  unfold Db.delete delRole
  cases E.kind with
  | single => rfl
  | multi =>
    dsimp only
    split <;> rfl

theorem delete_answer (E : Entity ρ χ ι) (db : Db ρ) : (db.delete E).1 = some true ↔ E.kind = .multi ∧ db.recordset.isSome = true := by
  unfold Db.delete delRole
  cases E.kind with
  | single => exact ⟨nofun,fun multi => absurd multi.1 (by decide)⟩
  | multi =>
    dsimp only
    split
    · exact ⟨fun _ => ⟨rfl,‹_›⟩,fun _ => rfl⟩
    · exact ⟨nofun,fun multi => absurd multi.2 ‹_›⟩

theorem delete_world (alive : w.alive = true) : delete E w = {w with db:={w.db with redis:=none, mysql:=none}, game.recordset:=left E w} := by
  unfold delete left
  rw [if_pos alive]
  dsimp only
  rw [delete_db]
  by_cases multi : E.kind = .multi ∧ w.db.recordset.isSome = true
  · rw [if_pos multi,if_pos ((delete_answer E w.db).mpr multi)]
  · rw [if_neg multi,if_neg (fun yes => multi ((delete_answer E w.db).mp yes))]

theorem receive_missing (missing : Missing db) (idle : ¬ (db.online = true ∧ (E.kind = .multi ∨ db.recordset.isSome = true))) (saveFlag : Bool) (row : ρ) :
    Missing (db.receive E saveFlag row).2 ∧ (db.receive E saveFlag row).2.online = db.online ∧ (db.receive E saveFlag row).2.recordset = db.recordset := by
  unfold Db.receive
  cases kind : E.kind with
  | multi =>
    have off : db.online = false := Bool.eq_false_iff.mpr (fun on => idle ⟨on,.inl kind⟩)
    cases saveFlag with
    | false => exact ⟨missing,rfl,rfl⟩
    | true =>
      dsimp only
      rw [Bool.not_true,if_neg Bool.false_ne_true,off,if_neg Bool.false_ne_true,loadRole_missing missing]
      exact ⟨missing,off,rfl⟩
  | single =>
    dsimp only
    cases online : db.online with
    | false =>
      rw [if_neg Bool.false_ne_true,loadRole_missing missing]
      exact ⟨missing,online,rfl⟩
    | true =>
      have none : db.recordset = none := Option.not_isSome_iff_eq_none.mp (fun there => idle ⟨online,.inr there⟩)
      rw [if_pos rfl,none]
      dsimp only
      split
      · exact ⟨missing,online,none⟩
      · exact ⟨missing,rfl,rfl⟩

theorem unload_missing (E : Entity ρ χ ι) (missing : Missing db) : Missing (db.unload E) := by
  unfold Db.unload
  cases db.recordset with
  | none =>
    dsimp only
    split
    · exact missing
    · exact missing
  | some row =>
    refine ⟨rfl,?_⟩
    dsimp only
    split
    · unfold updateRole
      dsimp only
      rw [missing.2]
      rfl
    · exact missing.2

-- What holds from the deletion on while nothing but Save and UnLoad is called.
structure Quiet (E : Entity ρ χ ι) (w : World ρ) : Prop where
  alive : w.alive = true
  missing : Missing w.db
  clean : w.game.recordset.isSome = true → ¬ Dirty E w

theorem unload_quiet (quiet : Quiet E w) : Quiet E (unload E w) := by
  obtain ⟨alive,missing,clean⟩ := quiet
  unfold unload
  cases memory : w.game.recordset with
  | none =>
    dsimp only
    split
    · exact ⟨alive,missing,fun there => absurd there (by rw [memory]; exact Bool.false_ne_true)⟩
    · exact ⟨alive,missing,fun there => absurd there (by rw [memory]; exact Bool.false_ne_true)⟩
  | some row =>
    have idle := clean (by rw [memory]; rfl)
    dsimp only
    rw [if_pos alive]
    refine ⟨alive,unload_missing E ?_,nofun⟩
    split
    · exact (receive_missing missing (fun on => idle ⟨‹_›,on⟩) _ row).1
    · exact missing

theorem save_quiet (quiet : Quiet E w) (noSave : Bool) : Quiet E (save E noSave w) := by
  obtain ⟨alive,missing,clean⟩ := quiet
  unfold save
  cases memory : w.game.recordset with
  | none => exact ⟨alive,missing,clean⟩
  | some row =>
    dsimp only
    split
    · have idle := clean (by rw [memory]; rfl)
      exact ⟨alive,(receive_missing missing (fun on => idle ⟨‹_›,on⟩) _ row).1,fun _ dirty => Bool.false_ne_true dirty.1⟩
    · exact ⟨alive,missing,clean⟩

-- A Save of a record that is dirty puts the row back.
theorem save_dirty (alive : w.alive = true) {row : ρ} (memory : w.game.recordset = some row) (dirty : Dirty E w) :
    ¬ Missing (save E false w).db := by
  obtain ⟨flag,online,held⟩ := dirty
  unfold save
  rw [memory]
  dsimp only
  rw [if_pos flag,if_pos alive]
  unfold Db.receive
  rintro ⟨gone,_⟩
  dsimp only at gone
  cases kind : E.kind with
  | multi =>
    rw [kind] at gone
    dsimp only at gone
    rw [online] at gone
    cases recordset : w.db.recordset with
    | none =>
      rw [recordset] at gone
      cases gone
    | some old =>
      rw [recordset] at gone
      cases gone
  | single =>
    obtain ⟨old,recordset⟩ := Option.isSome_iff_exists.mp (held.resolve_left (by rw [kind]; decide))
    rw [kind] at gone
    dsimp only at gone
    rw [online,recordset] at gone
    cases gone

variable [DecidableEq ρ]

theorem later_quiet (before : World ρ) (op : Op χ ι) (after : World ρ) (quiet : Quiet E before) (later : Later E before op after) : Quiet E after := by
  obtain ⟨writes,rfl⟩ := later
  cases op with
  | save noSave => exact save_quiet quiet noSave
  | unload => exact unload_quiet quiet
  | offlineTimer =>
    change Quiet E (if before.offlineCacheTimer then unload E before else before)
    split
    · exact unload_quiet quiet
    · exact quiet
  | load | get | set | add | cacheSave | down | up | wait => cases writes

theorem written_iff (alive : w.alive = true) (missing : Missing w.db) :
    (∀ ops last, Runs (Later E) w ops last → Missing last.db) ↔ (w.game.recordset.isSome = true → ¬ Dirty E w) := by
  constructor
  · intro always there dirty
    obtain ⟨row,memory⟩ := Option.isSome_iff_exists.mp there
    exact save_dirty alive memory dirty (always [.save false] _ (.more ⟨rfl,rfl⟩ .done))
  · intro clean ops last path
    exact (path.invariant later_quiet ⟨alive,missing,clean⟩).missing

theorem load_missing (E : Entity ρ χ ι) (db : Db ρ) (missing : Missing db) : (db.load E).1 = db.recordset := by
  unfold Db.load
  rw [loadRole_missing missing]

-- A multi row that is in redis comes back whatever it holds.
theorem load_rewritten (kind : E.kind = .multi) (row : ρ) (db : Db ρ) : ((updateRole row db).load E).1 = some row := by
  unfold Db.load loadRole updateRole kept
  dsimp only
  rw [kind,decide_eq_true rfl,Bool.true_or,if_pos rfl]

theorem fetch_view (alive : w.alive = true) (memory : w.game.recordset = none) : view E (fetch E w) = (w.db.load E).1.getD E.blank := by
  unfold fetch view
  rw [if_pos alive,memory]
  dsimp only
  cases (w.db.load E).1 with
  | none => rfl
  | some row =>
    dsimp only
    by_cases blank : row = E.blank
    · rw [if_neg (not_not.mpr blank),blank]
      rfl
    · rw [if_pos blank]

-- A game service without the record has nothing to unload.
theorem load_sent (alive : w.alive = true) (memory : w.game.recordset = none) (db : Db ρ)
    (sent : flush E w = (true,{w with db:=db, cache:=none})) : (load E w).1 = true ∧ view E (load E w).2 = (db.load E).1.getD E.blank := by
  unfold load
  rw [sent]
  dsimp only
  refine ⟨rfl,?_⟩
  split
  · unfold unload
    rw [memory]
    dsimp only
    split
    · exact fetch_view alive memory
    · exact fetch_view alive memory
  · exact fetch_view alive memory

theorem flush_missing (alive : w.alive = true) (missing : Missing w.db) :
    (∃ db, flush E w = (true,{w with db:=db, cache:=none}) ∧ (db.load E).1.getD E.blank = (brought E w).getD E.blank) ∨
      flush E w = (false,w) ∧ (brought E w).getD E.blank = E.blank := by
  unfold flush brought
  cases cached : w.cache with
  | none =>
    have same : {w with cache:=none} = w := by rw [← cached]
    exact .inl ⟨w.db,congrArg (Prod.mk true) same.symm,by rw [load_missing E _ missing]⟩
  | some entry =>
    obtain ⟨row,expireTime⟩ := entry
    dsimp only
    rw [if_pos alive]
    unfold Db.receive pushes
    cases kind : E.kind with
    | multi =>
      dsimp only
      rw [decide_eq_true rfl,Bool.not_true,if_neg Bool.false_ne_true]
      cases online : w.db.online with
      | false =>
        rw [if_neg Bool.false_ne_true,loadRole_missing missing,if_neg Bool.false_ne_true,if_pos rfl]
        have same : {w with cache:=some (row,expireTime)} = w := by rw [← cached]
        exact .inr ⟨congrArg (Prod.mk false) same,rfl⟩
      | true =>
        rw [if_pos rfl,if_pos rfl]
        cases memory : w.db.recordset with
        | some old =>
          refine .inl ⟨_,rfl,?_⟩
          rw [load_rewritten kind]
          rfl
        | none =>
          refine .inl ⟨_,rfl,?_⟩
          rw [load_rewritten kind]
          rfl
    | single =>
      dsimp only
      rw [decide_eq_false (by decide)]
      cases online : w.db.online with
      | false =>
        rw [if_neg Bool.false_ne_true,loadRole_missing missing,if_neg Bool.false_ne_true,if_neg (by decide)]
        exact .inl ⟨_,rfl,by rw [load_missing E _ missing]⟩
      | true =>
        rw [if_pos rfl,if_pos rfl]
        cases memory : w.db.recordset with
        | some old =>
          refine .inl ⟨_,rfl,?_⟩
          rw [load_missing E ⟨⟨some (E.merge row old),true,true⟩,w.db.redis,w.db.mysql⟩ missing]
          rfl
        | none =>
          refine .inl ⟨_,rfl,?_⟩
          rw [load_missing E ⟨⟨none,true,true⟩,w.db.redis,w.db.mysql⟩ missing]
          rfl

theorem get_missing (alive : w.alive = true) (missing : Missing w.db) :
    view E (get E w).2 = (w.game.recordset.or (brought E w)).getD E.blank := by
  unfold get
  cases memory : w.game.recordset with
  | some row =>
    rw [Option.isSome_some,if_pos rfl,Option.some_or]
    unfold view
    rw [memory]
  | none =>
    rw [if_neg (by rw [Option.isSome_none]; exact Bool.false_ne_true),Option.none_or]
    rcases flush_missing (E:=E) alive missing with ⟨db,sent,same⟩ | ⟨failed,blank⟩
    · obtain ⟨done,found⟩ := load_sent alive memory db sent
      rw [← same,← found]
      generalize load E w = pair at done ⊢
      obtain ⟨answer,after⟩ := pair
      dsimp only at done
      subst done
      dsimp only
      split <;> rfl
    · unfold load
      rw [failed,blank]
      unfold view
      dsimp only
      rw [memory]
      rfl

theorem dbGet_missing (missing : Missing db) : db.get E = db.recordset := by
  unfold Db.get
  cases memory : db.recordset with
  | some row => rfl
  | none => exact (load_missing E db missing).trans memory

theorem deletion_visible (E : Entity ρ χ ι) (alive : w.alive = true) (db : Db ρ) :
    (Deleted E w ↔ Forgotten E w) ∧ (DbDeleted E db ↔ db.recordset.getD E.blank = E.blank) := by
  constructor
  · have gone : Missing (delete E w).db := by
      rw [delete_world alive]
      exact ⟨rfl,rfl⟩
    have there : (delete E w).alive = true := by
      rw [delete_world alive]
      exact alive
    have found := get_missing (E:=E) there gone
    have written := written_iff (E:=E) there gone
    rw [delete_world alive] at found written
    unfold Deleted
    rw [delete_world alive,found,written]
    exact ⟨fun deleted => ⟨deleted.1,deleted.2⟩,fun forgotten => ⟨forgotten.empty,forgotten.clean⟩⟩
  · have gone : Missing (db.delete E).2 := by
      rw [delete_db]
      exact ⟨rfl,rfl⟩
    unfold DbDeleted
    rw [dbGet_missing gone,delete_db]
    exact ⟨fun deleted => deleted.1,fun empty => ⟨empty,unload_missing E ⟨rfl,rfl⟩⟩⟩

end Proofs

-- Offline at both services the record goes for good.
theorem absent_deleted : Deleted items absent ∧ DbDeleted items absent.db := by
  have both := deletion_visible (w:=absent) items rfl absent.db
  exact ⟨both.1.mpr ⟨by decide,fun _ => by unfold Dirty; decide⟩,both.2.mpr (by decide)⟩

-- A role after its Load.
def loadedRole : World (Rows Nat ItemField Nat) :=
  ⟨⟨some (stack 1),true,false⟩,none,false,⟨⟨some (stack 1),true,false⟩,some (stack 1),some (stack 1)⟩,true,0⟩

-- The game drops its record and the db service still answers with its own.
theorem loaded_returns : (delete items loadedRole).db.mysql = none ∧ view items (get items (delete items loadedRole)).2 = stack 1 ∧ ¬ Deleted items loadedRole := by
  refine ⟨by decide,by decide,fun deleted => ?_⟩
  exact absurd deleted.1 (by decide)

end OriginGame.RoleStore
