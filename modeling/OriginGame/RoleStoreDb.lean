import OriginGame.RoleStore

namespace OriginGame.RoleStore

section Db
variable {ρ χ ι : Type} {db : Db ρ} {row : ρ}

-- redis never disagrees with mysql, and a db service that is not online holds nothing.
structure Sound (db : Db ρ) : Prop where
  redis : ∀ {row}, db.redis = some row → db.mysql = some row
  offline : db.online = false → db.recordset = none ∧ db.updateflag = false

-- An Update with this row leaves exactly this row.
structure Backed (E : Entity ρ χ ι) (db : Db ρ) (row : ρ) : Prop where
  mysql : ∃ old, db.mysql = some old ∧ E.merge row old = row
  recordset : db.online = true → ∃ old, db.recordset = some old ∧ E.merge row old = row

-- The db has the row, in mysql or still to be written at its own UnLoad.
structure Holds (db : Db ρ) (row : ρ) : Prop where
  stored : db.mysql.isSome = true
  recordset : db.online = true → db.recordset = some row
  written : db.mysql = some row ∨ db.online = true ∧ db.updateflag = true

theorem loadRole_sound (sound : Sound db) : (loadRole db).1 = db.mysql ∧
    (loadRole db).2 = {db with redis:=(loadRole db).2.redis} ∧ Sound (loadRole db).2 := by
  unfold loadRole
  cases redis : db.redis with
  | some row => exact ⟨(sound.redis redis).symm,rfl,sound⟩
  | none => exact ⟨rfl,rfl,fun held => held,sound.offline⟩

theorem updateRole_mysql (stored : db.mysql.isSome = true) (row : ρ) : (updateRole row db).mysql = some row := by
  obtain ⟨old,held⟩ := Option.isSome_iff_exists.mp stored
  simp only [updateRole,held,Option.map_some]

theorem updateRole_sound (sound : Sound db) (stored : db.mysql.isSome = true) (row : ρ) : Sound (updateRole row db) := by
  refine ⟨?_,sound.offline⟩
  intro other found
  rw [updateRole_mysql stored]
  exact found

variable {E : Entity ρ χ ι}

theorem unload_holds (E : Entity ρ χ ι) (sound : Sound db) (holds : Holds db row) : Sound (db.unload E) ∧
    (db.unload E).mysql = some row ∧ (db.unload E).recordset = none ∧ (db.unload E).updateflag = false ∧
    (db.unload E).online = false := by
  unfold Db.unload
  cases online : db.online with
  | false =>
    obtain ⟨nothing,clean⟩ := sound.offline online
    have mysql : db.mysql = some row := by
      rcases holds.written with written | ⟨on,_⟩
      · exact written
      · rw [online] at on
        cases on
    rw [nothing]
    dsimp only
    split
    · exact ⟨⟨sound.redis,fun _ => ⟨rfl,clean⟩⟩,mysql,rfl,clean,rfl⟩
    · exact ⟨sound,mysql,nothing,clean,online⟩
  | true =>
    rw [holds.recordset online]
    dsimp only
    refine ⟨⟨fun found => (by cases found),fun _ => ⟨rfl,rfl⟩⟩,?_,rfl,rfl,rfl⟩
    split
    · exact updateRole_mysql holds.stored row
    · rcases holds.written with written | ⟨_,flag⟩
      · exact written
      · contradiction

theorem receive_online (backed : Backed E db row) (online : db.online = true) (whole : E.kind = .multi → saveFlag = true) :
    db.receive E saveFlag row = (true,if saveFlag then updateRole row {db with recordset:=some row}
      else {db with recordset:=some row, updateflag:=true}) := by
  obtain ⟨old,held,covers⟩ := backed.recordset online
  unfold Db.receive
  cases kind : E.kind with
  | multi => simp only [whole kind,held,online,covers,Bool.not_true,if_true,Bool.false_eq_true,if_false]
  | single => cases saveFlag <;> simp only [held,online,covers,if_true,Bool.false_eq_true,if_false]

theorem receive_offline (sound : Sound db) (backed : Backed E db row) (offline : db.online = false)
    (whole : E.kind = .multi → saveFlag = true) :
    db.receive E saveFlag row = (true,updateRole row (loadRole db).2) := by
  obtain ⟨old,held,covers⟩ := backed.mysql
  obtain ⟨found,_,_⟩ := loadRole_sound sound
  rw [held] at found
  unfold Db.receive
  generalize loadRole db = pair at found ⊢
  obtain ⟨_,next⟩ := pair
  cases found
  cases kind : E.kind with
  | multi => simp only [whole kind,offline,covers,Bool.not_true,Bool.false_eq_true,if_false]
  | single => simp only [offline,covers,Bool.false_eq_true,if_false]

theorem receive_backed (sound : Sound db) (backed : Backed E db row) (whole : E.kind = .multi → saveFlag = true) :
    (db.receive E saveFlag row).1 = true ∧ Sound (db.receive E saveFlag row).2 ∧ Backed E (db.receive E saveFlag row).2 row ∧
    Holds (db.receive E saveFlag row).2 row ∧ (db.receive E saveFlag row).2.online = db.online ∧
    (saveFlag = true ∨ db.online = false → (db.receive E saveFlag row).2.mysql = some row) := by
  obtain ⟨old,held,covers⟩ := backed.mysql
  have stored : db.mysql.isSome = true := by rw [held]; rfl
  cases online : db.online with
  | false =>
    rw [receive_offline sound backed online whole]
    obtain ⟨_,rest,loaded⟩ := loadRole_sound sound
    generalize (loadRole db).2 = next at rest loaded ⊢
    have off : next.online = false := by rw [rest]; exact online
    have there : next.mysql.isSome = true := by rw [rest]; exact stored
    have mysql := updateRole_mysql there row
    have never : (updateRole row next).online ≠ true := by simp only [updateRole,off,ne_eq,Bool.false_eq_true,not_false_eq_true]
    refine ⟨rfl,updateRole_sound loaded there row,⟨⟨row,mysql,E.merge_self row⟩,?_⟩,⟨?_,?_,.inl mysql⟩,off,fun _ => mysql⟩
    · intro on
      exact absurd on never
    · rw [mysql]
      rfl
    · intro on
      exact absurd on never
  | true =>
    rw [receive_online backed online whole]
    have same : Sound {db with recordset:=some row} := ⟨sound.redis,fun off => by rw [online] at off; cases off⟩
    cases saveFlag with
    | true =>
      have mysql : (updateRole row {db with recordset:=some row}).mysql = some row := updateRole_mysql stored row
      refine ⟨rfl,updateRole_sound same stored row,⟨⟨row,mysql,E.merge_self row⟩,fun _ => ⟨row,rfl,E.merge_self row⟩⟩,
        ⟨?_,fun _ => rfl,.inl mysql⟩,online,fun _ => mysql⟩
      exact Option.isSome_iff_exists.mpr ⟨row,mysql⟩
    | false =>
      refine ⟨rfl,⟨sound.redis,fun off => ?_⟩,⟨⟨old,held,covers⟩,fun _ => ⟨row,rfl,E.merge_self row⟩⟩,
        ⟨stored,fun _ => rfl,.inr ⟨online,rfl⟩⟩,online,fun reason => ?_⟩
      · dsimp only at off
        rw [online] at off
        cases off
      · rcases reason with flag | off
        · cases flag
        · cases off

variable [DecidableEq ρ]

theorem load_spec (E : Entity ρ χ ι) (sound : Sound db) : Sound (db.load E).2 ∧ (db.load E).2.online = true ∧
    (db.load E).2.mysql = db.mysql ∧ (db.load E).2.updateflag = db.updateflag ∧ (db.load E).1 = (db.load E).2.recordset ∧
    (db.load E).2.recordset = match db.mysql with
      | some row => if kept E row then some row else db.recordset
      | none => db.recordset := by
  obtain ⟨row,rest,loaded⟩ := loadRole_sound sound
  unfold Db.load
  generalize loadRole db = pair at row rest loaded ⊢
  obtain ⟨found,next⟩ := pair
  dsimp only at row rest loaded ⊢
  subst row
  have mysql : next.mysql = db.mysql := by rw [rest]
  have recordset : next.recordset = db.recordset := by rw [rest]
  have updateflag : next.updateflag = db.updateflag := by rw [rest]
  cases stored : db.mysql with
  | none => exact ⟨⟨loaded.redis,fun off => by cases off⟩,rfl,mysql.trans stored,updateflag,rfl,recordset⟩
  | some row =>
    dsimp only
    split
    · exact ⟨⟨loaded.redis,fun off => by cases off⟩,rfl,mysql.trans stored,updateflag,rfl,rfl⟩
    · exact ⟨⟨loaded.redis,fun off => by cases off⟩,rfl,mysql.trans stored,updateflag,rfl,recordset⟩

end Db
end OriginGame.RoleStore
