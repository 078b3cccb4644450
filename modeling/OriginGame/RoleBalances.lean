import Mathlib.Algebra.Order.Ring.Int
import OriginGame.RoleStore

namespace OriginGame.RoleStore

-- What an Update with lockFlag answers about the field.
structure LockReply where
  lockValue : Option Int
  oldValue : Option Int
  deriving DecidableEq

section Locked
variable {φ : Type} [DecidableEq φ]

-- The answer is never below zero; the field is.
def shown (n : Int) : Int := if n < 0 then 0 else n

-- `newRecordSet[name] + value` raises for a field that is not there.
def lockField (field : φ) (value : Int) (newRecordSet : Record φ Int) : Option (Record φ Int × LockReply) :=
  (newRecordSet.lookup field).map (fun old => (newRecordSet.insert field (old+value),⟨some (shown (old+value)),some old⟩))

-- LockSet at the db: without a record there is nothing to answer. none is an error.
def Db.lockSet (field : φ) (value : Int) (db : Db (Record φ Int)) : Option LockReply × Db (Record φ Int) :=
  if db.online then
    match db.recordset with
    | some row =>
      match lockField field value row with
      | some (row,reply) => (some reply,{db with recordset:=some row, updateflag:=true})
      | none => (none,db)
    | none => (some ⟨none,none⟩,{db with updateflag:=true})
  else
    match loadRole db with
    | (none,db) => (some ⟨none,none⟩,db)
    | (some row,db) =>
      match lockField field value row with
      | some (row,reply) => (some reply,updateRole row db)
      | none => (none,db)

-- LockSet at the game. A record there changes as well, and answers in place of the db.
def lockSet (field : φ) (value : Int) (w : World (Record φ Int)) : Option LockReply × World (Record φ Int) :=
  if w.game.online then
    match w.game.recordset with
    | some row =>
      match lockField field value row with
      | some (row,reply) => (some reply,{w with game.recordset:=some row, game.updateflag:=true})
      | none => (none,w)
    | none => (some ⟨none,none⟩,{w with game.updateflag:=true})
  else if w.alive then
    let (reply,db) := w.db.lockSet field value
    match reply,w.game.recordset with
    | some _,some row =>
      match lockField field value row with
      | some (row,reply) => (some reply,{w with db:=db, game.recordset:=some row})
      | none => (none,{w with db:=db})
    | reply,_ => (reply,{w with db:=db})
  else (none,w)

-- The value of a field where Update finds it.
def Db.stored (db : Db (Record φ Int)) (field : φ) : Option Int :=
  (if db.online then db.recordset else (loadRole db).1).bind (fun row => row.lookup field)

def stored (w : World (Record φ Int)) (field : φ) : Option Int :=
  if w.game.online then w.game.recordset.bind (fun row => row.lookup field) else w.db.stored field

-- A call that returns tells the value before and the value after, which is not negative.
def Truthful (field : φ) (value : Int) (w : World (Record φ Int)) : Prop :=
  ∀ reply ∈ (lockSet field value w).1, ∃ new, stored (lockSet field value w).2 field = some new ∧ 0 ≤ new ∧
    reply.lockValue = some new ∧ reply.oldValue = stored w field

def AllTruthful : List (φ × Int) → World (Record φ Int) → Prop
  | [],_ => True
  | (field,value)::rest,w => Truthful field value w ∧ AllTruthful rest (lockSet field value w).2

-- No deduction is above the balance it finds.
def Covered : List (φ × Int) → (φ → Int) → Prop
  | [],_ => True
  | (field,value)::rest,balance => 0 ≤ balance field+value ∧ Covered rest (Function.update balance field (balance field+value))

-- A role that is not online at the game has no record there.
def Settled {ρ : Type} (w : World ρ) : Prop := w.game.online = false → w.game.recordset = none

-- Either the game has the role or the db node answers.
def Answers {ρ : Type} (w : World ρ) : Prop := w.game.online = true ∨ w.alive = true

end Locked

section settled
variable {ρ χ ι : Type} {w : World ρ}

theorem loadRole_online (db : Db ρ) : (loadRole db).2.online = db.online := by
  unfold loadRole
  split <;> rfl

theorem Settled.online (online : w.game.online = true) : Settled w := by
  intro off
  rw [online] at off
  cases off

theorem Settled.same {after : World ρ} (settled : Settled w) (same : after.game = w.game) : Settled after := by
  unfold Settled
  rw [same]
  exact settled

theorem unload_settled (E : Entity ρ χ ι) (settled : Settled w) : Settled (unload E w) := by
  unfold unload
  split
  · exact fun _ => rfl
  · rename_i nothing
    split
    · exact fun _ => nothing
    · exact settled

theorem offlineTimer_settled (E : Entity ρ χ ι) (settled : Settled w) : Settled (offlineTimer E w) := by
  unfold offlineTimer
  split
  · exact unload_settled E settled
  · exact settled

theorem set_settled (E : Entity ρ χ ι) (settled : Settled w) (c : χ) : Settled (set E c w).2 := by
  unfold set
  split
  · rename_i online
    split
    · split
      · exact Settled.online online
      · exact settled
    · exact Settled.online online
  · split
    · intro off
      change w.game.recordset.map _ = none
      rw [settled off]
      rfl
    · exact settled

theorem save_settled (E : Entity ρ χ ι) (settled : Settled w) (noSave : Bool) : Settled (save E noSave w) := by
  unfold save
  split
  · split
    · exact settled
    · exact settled
  · exact settled

theorem cacheSave_settled (E : Entity ρ χ ι) (settled : Settled w) : Settled (cacheSave E w) := by
  unfold cacheSave
  split
  · exact settled
  · split
    · split
      · exact settled
      · exact settled
    · exact settled

theorem flush_game (E : Entity ρ χ ι) (w : World ρ) : (flush E w).2.game = w.game := by
  unfold flush
  split
  · rfl
  · split
    · split <;> rfl
    · rfl

theorem add_settled [DecidableEq ρ] (E : Entity ρ χ ι) (settled : Settled w) (i : ι) : Settled (add E i w).2 := by
  unfold add
  split
  · rename_i held _
    intro off
    rw [settled off] at held
    cases held
  · exact settled
  · split
    · dsimp only
      split
      · rename_i online
        exact Settled.online online
      · exact settled
    · exact settled
  · split
    · split
      · exact settled
      · dsimp only
        split
        · rename_i both
          exact Settled.online (Bool.and_eq_true _ _ |>.mp both).2
        · exact settled
    · exact settled

theorem load_settled [DecidableEq ρ] (E : Entity ρ χ ι) (settled : Settled w) : Settled (load E w).2 := by
  have game := flush_game E w
  unfold load
  split
  · rename_i next flushed
    rw [flushed] at game
    exact settled.same game
  · exact Settled.online rfl

theorem get_settled [DecidableEq ρ] (E : Entity ρ χ ι) (settled : Settled w) : Settled (get E w).2 := by
  have loaded := load_settled E settled
  unfold get
  split
  · exact settled
  · split
    · rename_i flushed
      rw [flushed] at loaded
      exact loaded
    · rename_i next flushed
      rw [flushed] at loaded
      dsimp only
      split
      · exact loaded
      · exact loaded

-- No operation of a role takes it offline with its record.
theorem apply_settled [DecidableEq ρ] (E : Entity ρ χ ι) (settled : Settled w) (op : Op χ ι) : Settled (op.apply E w) := by
  cases op with
  | load => exact load_settled E settled
  | get => exact get_settled E settled
  | set c => exact set_settled E settled c
  | add i => exact add_settled E settled i
  | save noSave => exact save_settled E settled noSave
  | unload => exact unload_settled E settled
  | offlineTimer => exact offlineTimer_settled E settled
  | cacheSave => exact cacheSave_settled E settled
  | down => exact settled
  | up restarted => exact settled
  | wait seconds => exact settled

end settled

section locked
variable {φ : Type} [DecidableEq φ] {w : World (Record φ Int)} {db : Db (Record φ Int)} {field other : φ} {old : Int}

theorem lockField_found {row : Record φ Int} (found : row.lookup field = some old) (value : Int) :
    lockField field value row = some (row.insert field (old+value),⟨some (shown (old+value)),some old⟩) := by
  rw [lockField,found,Option.map_some]

-- What one locked update does wherever the record is.
structure Updated (w after : World (Record φ Int)) (field : φ) (new : Int) : Prop where
  value : stored after field = some new
  others : ∀ other ≠ field, stored after other = stored w other
  settled : Settled after
  answers : Answers after

theorem lookup_updated (row : Record φ Int) (field : φ) (new : Int) : (row.insert field new).lookup field = some new ∧
    ∀ other ≠ field, (row.insert field new).lookup other = row.lookup other :=
  ⟨Finmap.lookup_insert _,fun _ differs => Finmap.lookup_insert_of_ne _ differs⟩

theorem Db.stored_offline {row : Record φ Int} (offline : db.online = false) (loaded : (loadRole db).1 = some row) :
    db.stored field = row.lookup field := by
  rw [Db.stored,offline,loaded]
  rfl

theorem Db.lockSet_found (found : db.stored field = some old) (value : Int) :
    (db.lockSet field value).1 = some ⟨some (shown (old+value)),some old⟩ ∧ (db.lockSet field value).2.stored field = some (old+value) ∧
      ∀ other ≠ field, (db.lockSet field value).2.stored other = db.stored other := by
  cases online : db.online with
  | true =>
    rw [Db.stored,online] at found
    obtain ⟨row,held,there⟩ := Option.bind_eq_some_iff.mp found
    obtain ⟨same,others⟩ := lookup_updated row field (old+value)
    change db.recordset = some row at held
    simp only [Db.lockSet,held,lockField_found there value,Db.stored,online,if_true,Option.bind_some]
    exact ⟨trivial,same,others⟩
  | false =>
    have loads : ∃ row, (loadRole db).1 = some row ∧ row.lookup field = some old := by
      rw [Db.stored,online] at found
      exact Option.bind_eq_some_iff.mp found
    obtain ⟨row,held,there⟩ := loads
    obtain ⟨same,others⟩ := lookup_updated row field (old+value)
    have before : ∀ other, db.stored other = row.lookup other := fun other => Db.stored_offline online held
    have off := loadRole_online db
    rw [online] at off
    have locked : db.lockSet field value = (some ⟨some (shown (old+value)),some old⟩,updateRole (row.insert field (old+value)) (loadRole db).2) := by
      unfold Db.lockSet
      generalize loadRole db = pair at held ⊢
      obtain ⟨_,next⟩ := pair
      cases held
      simp only [online,Bool.false_eq_true,if_false,lockField_found there value]
    rw [locked]
    have after : ∀ other, (updateRole (row.insert field (old+value)) (loadRole db).2).stored other = (row.insert field (old+value)).lookup other :=
      fun other => Db.stored_offline off rfl
    refine ⟨rfl,(after field).trans same,?_⟩
    intro other differs
    rw [after,before]
    exact others other differs

theorem lockSet_found (settled : Settled w) (answers : Answers w) (found : stored w field = some old) (value : Int) :
    (lockSet field value w).1 = some ⟨some (shown (old+value)),some old⟩ ∧ Updated w (lockSet field value w).2 field (old+value) := by
  unfold stored at found
  unfold lockSet
  split
  · rename_i online
    rw [if_pos online] at found
    obtain ⟨row,held,there⟩ := Option.bind_eq_some_iff.mp found
    obtain ⟨same,others⟩ := lookup_updated row field (old+value)
    simp only [held,lockField_found there value]
    refine ⟨trivial,?_,?_,Settled.online online,.inl online⟩
    · simp only [stored,online,if_true,Option.bind_some]
      exact same
    · intro other differs
      simp only [stored,online,if_true,Option.bind_some,held]
      exact others other differs
  · rename_i offline
    rw [if_neg offline] at found
    have nothing := settled (Bool.not_eq_true _ |>.mp offline)
    have alive := answers.resolve_left offline
    obtain ⟨reply,same,others⟩ := Db.lockSet_found found value
    simp only [alive,if_true,reply,nothing]
    refine ⟨trivial,?_,?_,fun _ => nothing,.inr rfl⟩
    · simp only [stored,offline]
      exact same
    · intro other differs
      simp only [stored,offline]
      exact others other differs

theorem lockField_change (field : φ) (value : Int) (row : Record φ Int) :
    (lockField field value row).map Prod.fst = (single φ Int).change (.increase field value) row := by
  rw [lockField,Option.map_map]
  rfl

theorem Db.lockSet_set (db : Db (Record φ Int)) (field : φ) (value : Int) :
    (db.lockSet field value).2 = (db.set (single φ Int) (.increase field value)).2 := by
  unfold Db.lockSet Db.set
  simp only [← lockField_change]
  by_cases online : db.online = true
  · rw [if_pos online,if_pos online]
    cases held : db.recordset with
    | none => simp only
    | some row =>
      dsimp only
      cases lockField field value row with
      | none => rfl
      | some pair => rfl
  · rw [if_neg online,if_neg online]
    generalize loadRole db = pair
    obtain ⟨row,next⟩ := pair
    cases row with
    | none => simp only
    | some row =>
      dsimp only
      cases lockField field value row with
      | none => rfl
      | some pair => rfl

-- Apart from the answer it is the Set of any field.
theorem lockSet_set (settled : Settled w) (field : φ) (value : Int) :
    (lockSet field value w).2 = (set (single φ Int) (.increase field value) w).2 := by
  unfold lockSet set
  simp only [← lockField_change]
  by_cases online : w.game.online = true
  · rw [if_pos online,if_pos online]
    cases held : w.game.recordset with
    | none => simp only
    | some row =>
      dsimp only
      cases lockField field value row with
      | none => rfl
      | some pair => rfl
  · rw [if_neg online,if_neg online]
    have nothing := settled (Bool.not_eq_true _ |>.mp online)
    by_cases alive : w.alive = true
    · rw [if_pos alive,if_pos alive]
      obtain ⟨⟨_,_,_⟩,_,_,db,_,_⟩ := w
      cases nothing
      dsimp only
      rw [Db.lockSet_set]
      cases (db.lockSet field value).1 with
      | none => rfl
      | some reply => rfl
    · rw [if_neg alive,if_neg alive]

theorem shown_self (n : Int) : shown n = n ↔ 0 ≤ n := by
  unfold shown
  split <;> omega

-- An update tells the truth just when the balance covers it.
theorem truthful_iff (settled : Settled w) (answers : Answers w) (found : stored w field = some old) (value : Int) :
    Truthful field value w ↔ 0 ≤ old+value := by
  obtain ⟨replies,updated⟩ := lockSet_found settled answers found value
  constructor
  · intro truthful
    obtain ⟨new,there,nonneg,_⟩ := truthful _ replies
    rw [updated.value] at there
    cases there
    exact nonneg
  · intro covered reply replied
    rw [replies] at replied
    cases replied
    exact ⟨_,updated.value,covered,congrArg some ((shown_self _).mpr covered),found.symm⟩

theorem lockSet_mute (mute : ¬Answers w) (field : φ) (value : Int) : lockSet field value w = (none,w) := by
  unfold lockSet
  rw [if_neg (fun online => mute (.inl online)),if_neg (fun alive => mute (.inr alive))]

end locked

-- The balances go along with the updates.
theorem updates_truthful {φ : Type} [DecidableEq φ] (updates : List (φ × Int)) (w : World (Record φ Int)) (balance : φ → Int) (settled : Settled w)
    (numeric : ∀ update ∈ updates, stored w update.1 = some (balance update.1)) :
    AllTruthful updates w ↔ (Answers w → Covered updates balance) := by
  by_cases answers : Answers w
  · rw [forall_prop_of_true answers]
    induction updates generalizing w balance with
    | nil => exact Iff.rfl
    | cons update rest ih =>
      obtain ⟨field,value⟩ := update
      have found := numeric (field,value) List.mem_cons_self
      obtain ⟨_,updated⟩ := lockSet_found settled answers found value
      refine and_congr (truthful_iff settled answers found value) (ih _ _ updated.settled ?_ updated.answers)
      intro other inside
      by_cases same : other.1 = field
      · rw [same,Function.update_self]
        exact updated.value
      · rw [Function.update_of_ne same,updated.others _ same]
        exact numeric other (List.mem_cons_of_mem _ inside)
  · refine iff_of_true ?_ (fun reply => absurd reply answers)
    induction updates with
    | nil => trivial
    | cons update rest ih =>
      have mute := lockSet_mute answers update.1 update.2
      refine ⟨?_,?_⟩
      · intro reply replied
        rw [mute] at replied
        cases replied
      · rw [mute]
        exact ih (fun other inside => numeric other (List.mem_cons_of_mem _ inside))

-- A role in memory with 100 of one field.
def rich : World (Record Nat Int) :=
  ⟨⟨some (Finmap.singleton 0 100),true,false⟩,none,false,⟨⟨none,false,false⟩,none,none⟩,true,0⟩

theorem rich_stored : stored rich 0 = some 100 := Finmap.lookup_singleton_eq

theorem rich_truthful : AllTruthful [(0,-40),(0,10),(0,-70)] rich := by
  refine (updates_truthful _ rich (fun _ => 100) (Settled.online rfl) ?_).mpr (fun _ => ?_)
  · simp only [List.forall_mem_cons]
    exact ⟨rich_stored,rich_stored,rich_stored,List.forall_mem_nil _⟩
  · exact ⟨by decide,by decide,by decide,trivial⟩

-- A deduction of 150 answers zero and leaves -50 behind.
theorem overdrawn : ¬∀ (updates : List (Nat × Int)) (w : World (Record Nat Int)) (balance : Nat → Int), Settled w →
    (∀ update ∈ updates, stored w update.1 = some (balance update.1) ∧ 0 ≤ balance update.1) → AllTruthful updates w := by
  intro always
  have settled : Settled rich := Settled.online rfl
  obtain ⟨truthful,_⟩ := always [(0,-150)] rich (fun _ => 100) settled (by
    intro update inside
    rw [List.mem_singleton.mp inside]
    exact ⟨rich_stored,by decide⟩)
  exact absurd ((truthful_iff settled (.inl rfl) rich_stored (-150)).mp truthful) (by decide)

end OriginGame.RoleStore
