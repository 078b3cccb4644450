import OriginGame.EntityImpl
import OriginGame.RoleStore

namespace OriginGame
namespace CommonEntities
open EntityImpl (Codec Answer)
open RoleStore (Record Rows)

-- A common table in the service that has no remoteNode: its recordset and the database behind it.
structure Store (κ ρ ε : Type) where
  recordset : Finmap (fun _ : κ => ρ)
  mysql : Finmap (fun _ : κ => ε)

section EntityImpl
variable {κ ρ ε : Type} [DecidableEq κ] (codec : Codec ρ ε) (answer : Answer)

-- The database rejects a second row of one key by itself.
def addCommon (pid : κ) (dataRaw : ρ) (mysql : Finmap (fun _ : κ => ε)) : Bool × Finmap (fun _ : κ => ε) :=
  if answer = .badresult ∨ pid ∈ mysql then (false,mysql) else (true,mysql.insert pid (codec.encode dataRaw))

-- A rejected update is answered with a table all the same, which the callers take for a success.
def updateCommonMysql (pid : κ) (updateData : ρ) (mysql : Finmap (fun _ : κ => ε)) : Finmap (fun _ : κ => ε) :=
  if answer = .badresult then mysql
  else match mysql.lookup pid with
    | none => mysql
    | some _ => mysql.insert pid (codec.encode updateData)

def delCommonMysql (pid : κ) (mysql : Finmap (fun _ : κ => ε)) : Bool × Finmap (fun _ : κ => ε) :=
  if answer = .badresult then (false,mysql) else (true,mysql.erase pid)

def accepted : Bool := decide (answer = .done)

end EntityImpl

section fields
variable {φ ν : Type} [DecidableEq φ]

-- `updateRecordSet[name] = value`, in the order of pairs.
def assign (record : Record φ ν) (row : List (φ × ν)) : Record φ ν := row.foldl (fun record field => record.insert field.1 field.2) record

-- With lockFlag: an addition to a field that is not there raises, what came before it stays.
def increase [Add ν] (record : Record φ ν) : List (φ × ν) → Record φ ν × Bool
  | [] => (record,true)
  | (name,value)::row =>
    match record.lookup name with
    | none => (record,false)
    | some oldValue => increase (record.insert name (oldValue+value)) row

end fields

section agree
variable {κ ρ ε : Type} [DecidableEq κ] {codec : Codec ρ ε} {answer : Answer} {s : Store κ ρ ε} {pid : κ} {data old : ρ}

-- The database has the rows of the memory.
def Agree (codec : Codec ρ ε) (s : Store κ ρ ε) : Prop := ∀ pid, s.mysql.lookup pid = (s.recordset.lookup pid).map codec.encode

theorem insert_same {t : Finmap (fun _ : κ => ρ)} (found : t.lookup pid = some data) : t.insert pid data = t := by
  apply Finmap.ext_lookup
  intro other
  by_cases same : other = pid
  · subst same
    rw [Finmap.lookup_insert,found]
  · rw [Finmap.lookup_insert_of_ne _ same]

-- An entry that is put in changes the table unless it was there.
theorem insert_eq_iff {t : Finmap (fun _ : κ => ρ)} : t.insert pid data = t ↔ t.lookup pid = some data := by
  refine ⟨fun same => ?_,insert_same⟩
  rw [← same,Finmap.lookup_insert]

theorem replaced_same {t : Finmap (fun _ : κ => ρ)} (found : t.lookup pid = some old) (same : t.insert pid data = t) : data = old :=
  Option.some.inj ((insert_eq_iff.mp same).symm.trans found)

theorem agree_insert (agree : Agree codec s) (pid : κ) (data : ρ) : Agree codec ⟨s.recordset.insert pid data,s.mysql.insert pid (codec.encode data)⟩ := by
  intro other
  dsimp only
  by_cases same : other = pid
  · subst same
    rw [Finmap.lookup_insert,Finmap.lookup_insert,Option.map_some]
  · rw [Finmap.lookup_insert_of_ne _ same,Finmap.lookup_insert_of_ne _ same]
    exact agree other

theorem agree_erase (agree : Agree codec s) (pid : κ) : Agree codec ⟨s.recordset.erase pid,s.mysql.erase pid⟩ := by
  intro other
  dsimp only
  by_cases same : other = pid
  · subst same
    rw [Finmap.lookup_erase,Finmap.lookup_erase,Option.map_none]
  · rw [Finmap.lookup_erase_ne same,Finmap.lookup_erase_ne same]
    exact agree other

theorem agree_update (agree : Agree codec s) (found : s.recordset.lookup pid = some old) (harmless : answer = .badresult → data = old) :
    Agree codec ⟨s.recordset.insert pid data,updateCommonMysql codec answer pid data s.mysql⟩ := by
  unfold updateCommonMysql
  split
  · rename_i rejected
    rw [harmless rejected,insert_same found]
    exact agree
  · have stored : s.mysql.lookup pid = some (codec.encode old) := by
      rw [agree pid,found,Option.map_some]
    rw [stored]
    exact agree_insert agree pid data

theorem agree_add (agree : Agree codec s) (missing : pid ∉ s.recordset) (accepted : answer = .done) (data : ρ) :
    addCommon codec answer pid data s.mysql = (true,s.mysql.insert pid (codec.encode data)) := by
  have none : s.mysql.lookup pid = none := by rw [agree pid,Finmap.lookup_eq_none.mpr missing,Option.map_none]
  unfold addCommon
  rw [if_neg]
  rintro (rejected | there)
  · rw [accepted] at rejected
    cases rejected
  · exact Finmap.lookup_eq_none.mp none there

end agree

namespace Single
variable {κ φ ν ε : Type} [DecidableEq κ] [DecidableEq φ] [Add ν]

-- given is whether the caller or the row names the pid; otherwise it is a new id.
inductive Op (κ φ ν : Type) where
  | add (given : Bool) (pid : κ) (row : Record φ ν)
  | delete (pid : κ)
  | update (pid : κ) (row : List (φ × ν)) (lockFlag : Bool)

def change (lockFlag : Bool) (record : Record φ ν) (row : List (φ × ν)) : Record φ ν × Bool :=
  if lockFlag then increase record row else (assign record row,true)

-- The second component is what the database says to the statement, none if there is no statement.
def step (codec : Codec (Record φ ν) ε) (answer : Answer) (s : Store κ (Record φ ν) ε) : Op κ φ ν → Store κ (Record φ ν) ε × Option Bool
  | .add given pid row =>
    if given = true ∧ pid ∈ s.recordset then (s,none)
    else
      let (res,mysql) := addCommon codec answer pid row s.mysql
      (⟨if res then s.recordset.insert pid row else s.recordset,mysql⟩,some res)
  | .delete pid =>
    if pid ∉ s.recordset then (s,none)
    else
      let (ret,mysql) := delCommonMysql answer pid s.mysql
      (⟨if ret then s.recordset.erase pid else s.recordset,mysql⟩,some ret)
  | .update pid row lockFlag =>
    match s.recordset.lookup pid with
    | none => (s,none)
    | some record =>
      let (record,finished) := change lockFlag record row
      if finished then (⟨s.recordset.insert pid record,updateCommonMysql codec answer pid record s.mysql⟩,some (accepted answer))
      else (⟨s.recordset.insert pid record,s.mysql⟩,none)

-- A rejected statement of this call leaves nothing changed in memory.
def Harmless (s : Store κ (Record φ ν) ε) : Op κ φ ν → Prop
  | .add .. | .delete _ => True
  | .update pid row lockFlag => ∀ record ∈ s.recordset.lookup pid, (change lockFlag record row).2 = true → (change lockFlag record row).1 = record

-- The fields a lockFlag adds to are there.
def Complete (s : Store κ (Record φ ν) ε) : Op κ φ ν → Prop
  | .add .. | .delete _ => True
  | .update pid row lockFlag => ∀ record ∈ s.recordset.lookup pid, (change lockFlag record row).2 = true

def Allowed (s : Store κ (Record φ ν) ε) (label : Answer × Op κ φ ν) : Prop := (label.1 = .badresult → Harmless s label.2) ∧ Complete s label.2

section steps
variable {codec : Codec (Record φ ν) ε} {s t : Store κ (Record φ ν) ε}

theorem failed_iff (op : Op κ φ ν) :
    (∀ answer, (step codec answer s op).2 = some false → (step codec answer s op).1.recordset = s.recordset) ↔ Harmless s op := by
  cases op with
  | add given pid row =>
    refine ⟨fun _ => trivial,fun _ answer failed => ?_⟩
    unfold step at failed ⊢
    dsimp only at failed ⊢
    split at failed
    · cases failed
    · rename_i fresh
      rw [if_neg fresh]
      dsimp only
      rw [Option.some.inj failed]
      exact if_neg Bool.false_ne_true
  | delete pid =>
    refine ⟨fun _ => trivial,fun _ answer failed => ?_⟩
    unfold step at failed ⊢
    dsimp only at failed ⊢
    split at failed
    · cases failed
    · rename_i there
      rw [if_neg there]
      dsimp only
      rw [Option.some.inj failed]
      exact if_neg Bool.false_ne_true
  | update pid row lockFlag =>
    unfold step Harmless
    dsimp only
    cases found : s.recordset.lookup pid with
    | none => exact ⟨fun _ record mem => absurd mem (Option.not_mem_none _),fun _ _ _ => rfl⟩
    | some record =>
      dsimp only
      constructor
      · rintro kept _ ⟨⟩ finished
        have same := kept .badresult
        rw [finished,if_pos rfl] at same
        exact replaced_same found (same rfl)
      · intro harmless answer failed
        split at failed
        · rename_i finished
          rw [if_pos finished,harmless record rfl finished]
          exact insert_same found
        · cases failed

theorem step_agree (agree : Agree codec s) (label : Answer × Op κ φ ν) (allowed : Allowed s label) : Agree codec (step codec label.1 s label.2).1 := by
  obtain ⟨answer,op⟩ := label
  obtain ⟨harmless,complete⟩ := allowed
  cases op with
  | add given pid row =>
    unfold step addCommon
    dsimp only
    split
    · exact agree
    · split
      · exact agree
      · exact agree_insert agree pid row
  | delete pid =>
    unfold step delCommonMysql
    dsimp only
    split
    · exact agree
    · split
      · exact agree
      · exact agree_erase agree pid
  | update pid row lockFlag =>
    unfold step
    dsimp only
    cases found : s.recordset.lookup pid with
    | none => exact agree
    | some record =>
      have finished := complete record found
      dsimp only
      rw [if_pos finished]
      exact agree_update agree found (fun rejected => harmless rejected record found finished)

end steps
end Single

namespace Multi
variable {κ ι φ ν ε : Type} [DecidableEq κ] [DecidableEq ι] [DecidableEq φ]

inductive Op (κ ι φ ν : Type) where
  | add (pid : κ) (indexId : ι) (row : Record φ ν)
  | delete (pid : κ) (indexId : Option ι)
  | update (pid : κ) (indexId : ι) (row : List (φ × ν))

-- An Update or a Delete of a pid without a record raises.
def step (codec : Codec (Rows ι φ ν) ε) (answer : Answer) (s : Store κ (Rows ι φ ν) ε) : Op κ ι φ ν → Store κ (Rows ι φ ν) ε × Option Bool
  | .add pid indexId row =>
    match s.recordset.lookup pid with
    | none =>
      let rows : Rows ι φ ν := (∅ : Rows ι φ ν).insert indexId row
      let (res,mysql) := addCommon codec answer pid rows s.mysql
      (⟨s.recordset.insert pid rows,mysql⟩,some res)
    | some rows =>
      if indexId ∈ rows then (s,none)
      else (⟨s.recordset.insert pid (rows.insert indexId row),updateCommonMysql codec answer pid (rows.insert indexId row) s.mysql⟩,some (accepted answer))
  | .delete pid indexId =>
    match s.recordset.lookup pid with
    | none => (s,none)
    | some rows =>
      match indexId with
      | some indexId =>
        if indexId ∉ rows then (s,none)
        else (⟨s.recordset.insert pid (rows.erase indexId),updateCommonMysql codec answer pid (rows.erase indexId) s.mysql⟩,some (accepted answer))
      | none =>
        let (ret,mysql) := delCommonMysql answer pid s.mysql
        (⟨if ret then s.recordset.erase pid else s.recordset,mysql⟩,some ret)
  | .update pid indexId row =>
    match s.recordset.lookup pid with
    | none => (s,none)
    | some rows =>
      match rows.lookup indexId with
      | none => (s,none)
      | some record =>
        let rows := rows.insert indexId (assign record row)
        (⟨s.recordset.insert pid rows,updateCommonMysql codec answer pid rows s.mysql⟩,some (accepted answer))

-- As above. An index that an Add finds and a Delete does not find needs no statement.
def Harmless (s : Store κ (Rows ι φ ν) ε) : Op κ ι φ ν → Prop
  | .add pid indexId _ => ∃ rows ∈ s.recordset.lookup pid, indexId ∈ rows
  | .delete pid (some indexId) => ∀ rows ∈ s.recordset.lookup pid, indexId ∉ rows
  | .delete _ none => True
  | .update pid indexId row => ∀ rows ∈ s.recordset.lookup pid, ∀ record ∈ rows.lookup indexId, assign record row = record

def Allowed (s : Store κ (Rows ι φ ν) ε) (label : Answer × Op κ ι φ ν) : Prop := label.1 = .badresult → Harmless s label.2

section steps
variable {codec : Codec (Rows ι φ ν) ε} {s t : Store κ (Rows ι φ ν) ε}

theorem failed_add_iff (pid : κ) (indexId : ι) (row : Record φ ν) :
    (∀ answer, (step codec answer s (.add pid indexId row)).2 = some false → (step codec answer s (.add pid indexId row)).1.recordset = s.recordset) ↔
      Harmless s (.add pid indexId row) := by
  unfold step Harmless
  dsimp only
  cases found : s.recordset.lookup pid with
  | none =>
    constructor
    · intro kept
      have same := insert_eq_iff.mp (kept .badresult rfl)
      rw [found] at same
      cases same
    · rintro ⟨rows,mem,_⟩
      cases mem
  | some rows =>
    dsimp only
    by_cases there : indexId ∈ rows
    · refine ⟨fun _ => ⟨rows,rfl,there⟩,fun _ answer failed => ?_⟩
      rw [if_pos there] at failed
      cases failed
    · constructor
      · intro kept
        have same := kept .badresult
        rw [if_neg there] at same
        have equal := replaced_same found (same rfl)
        exact absurd (equal ▸ Finmap.mem_insert.mpr (.inl rfl)) there
      · rintro ⟨_,⟨⟩,mem⟩
        exact absurd mem there

theorem failed_delete_iff (pid : κ) (indexId : Option ι) :
    (∀ answer, (step codec answer s (.delete pid indexId : Op κ ι φ ν)).2 = some false →
      (step codec answer s (.delete pid indexId : Op κ ι φ ν)).1.recordset = s.recordset) ↔ Harmless s (.delete pid indexId : Op κ ι φ ν) := by
  unfold step
  dsimp only
  cases found : s.recordset.lookup pid with
  | none =>
    refine ⟨fun _ => ?_,fun _ answer failed => absurd failed (by rintro ⟨⟩)⟩
    cases indexId with
    | none => trivial
    | some indexId =>
      intro rows mem
      rw [found] at mem
      cases mem
  | some rows =>
    cases indexId with
    | none =>
      refine ⟨fun _ => trivial,fun _ answer failed => ?_⟩
      dsimp only at failed ⊢
      rw [Option.some.inj failed]
      exact if_neg Bool.false_ne_true
    | some indexId =>
      dsimp only
      by_cases there : indexId ∈ rows
      · constructor
        · intro kept
          have same := kept .badresult
          rw [if_neg (not_not.mpr there)] at same
          have equal := replaced_same found (same rfl)
          have gone : indexId ∉ rows.erase indexId := Finmap.notMem_erase_self
          rw [equal] at gone
          exact absurd there gone
        · exact fun harmless => absurd there (harmless rows found)
      · refine ⟨fun _ others mem => ?_,fun _ answer failed => ?_⟩
        · rw [found] at mem
          cases mem
          exact there
        · rw [if_pos there] at failed
          cases failed

theorem failed_update_iff (pid : κ) (indexId : ι) (row : List (φ × ν)) :
    (∀ answer, (step codec answer s (.update pid indexId row)).2 = some false → (step codec answer s (.update pid indexId row)).1.recordset = s.recordset) ↔
      Harmless s (.update pid indexId row) := by
  unfold step Harmless
  dsimp only
  cases found : s.recordset.lookup pid with
  | none => exact ⟨fun _ rows mem => absurd mem (Option.not_mem_none _),fun _ answer failed => absurd failed (by rintro ⟨⟩)⟩
  | some rows =>
    dsimp only
    cases held : rows.lookup indexId with
    | none =>
      refine ⟨?_,fun _ answer failed => absurd failed (by rintro ⟨⟩)⟩
      rintro _ _ ⟨⟩ record mem
      rw [held] at mem
      cases mem
    | some record =>
      dsimp only
      constructor
      · rintro kept _ ⟨⟩ other mem
        rw [held] at mem
        cases mem
        have equal := replaced_same found (kept .badresult rfl)
        exact replaced_same held equal
      · intro harmless answer _
        rw [harmless rows rfl record held,insert_same held]
        exact insert_same found

theorem failed_iff (op : Op κ ι φ ν) :
    (∀ answer, (step codec answer s op).2 = some false → (step codec answer s op).1.recordset = s.recordset) ↔ Harmless s op := by
  cases op with
  | add pid indexId row => exact failed_add_iff pid indexId row
  | delete pid indexId => exact failed_delete_iff pid indexId
  | update pid indexId row => exact failed_update_iff pid indexId row

theorem step_agree (agree : Agree codec s) (label : Answer × Op κ ι φ ν) (allowed : Allowed s label) : Agree codec (step codec label.1 s label.2).1 := by
  obtain ⟨answer,op⟩ := label
  have harmless : answer = .badresult → Harmless s op := allowed
  cases op with
  | add pid indexId row =>
    unfold step
    dsimp only
    cases found : s.recordset.lookup pid with
    | none =>
      have accepted : answer = .done := by
        cases answer with
        | done => rfl
        | badresult =>
          obtain ⟨rows,mem,_⟩ := harmless rfl
          rw [found] at mem
          cases mem
      dsimp only
      rw [agree_add agree (Finmap.lookup_eq_none.mp found) accepted]
      exact agree_insert agree pid _
    | some rows =>
      dsimp only
      split
      · exact agree
      · rename_i fresh
        refine agree_update agree found (fun rejected => ?_)
        obtain ⟨others,mem,there⟩ := harmless rejected
        rw [found] at mem
        cases mem
        exact absurd there fresh
  | delete pid indexId =>
    unfold step
    dsimp only
    cases found : s.recordset.lookup pid with
    | none => exact agree
    | some rows =>
      cases indexId with
      | none =>
        unfold delCommonMysql
        dsimp only
        split
        · exact agree
        · exact agree_erase agree pid
      | some indexId =>
        dsimp only
        split
        · exact agree
        · rename_i there
          exact agree_update agree found (fun rejected => absurd (harmless rejected rows found) there)
  | update pid indexId row =>
    unfold step
    dsimp only
    cases found : s.recordset.lookup pid with
    | none => exact agree
    | some rows =>
      dsimp only
      cases held : rows.lookup indexId with
      | none => exact agree
      | some record =>
        refine agree_update agree found (fun rejected => ?_)
        rw [harmless rejected rows found record held]
        exact insert_same held

end steps
end Multi
section runs
variable {κ ι φ ν ε δ : Type} [DecidableEq κ] [DecidableEq ι] [DecidableEq φ] [Add ν]
variable {codec : Codec (Record φ ν) ε} {multiCodec : Codec (Rows ι φ ν) δ} {s t : Store κ (Record φ ν) ε} {u v : Store κ (Rows ι φ ν) δ}

theorem failures_harmless (agree : Agree codec s) (path : Runs (Guarded (fun s label t => t = (Single.step codec label.1 s label.2).1) Single.Allowed) s labels t)
    (multiAgree : Agree multiCodec u)
    (multiPath : Runs (Guarded (fun s label t => t = (Multi.step multiCodec label.1 s label.2).1) Multi.Allowed) u multiLabels v) :
    (Agree codec t ∧ ∀ op, (∀ answer, (Single.step codec answer t op).2 = some false → (Single.step codec answer t op).1.recordset = t.recordset) ↔
      Single.Harmless t op) ∧
    (Agree multiCodec v ∧ ∀ op, (∀ answer, (Multi.step multiCodec answer v op).2 = some false → (Multi.step multiCodec answer v op).1.recordset = v.recordset) ↔
      Multi.Harmless v op) := by
  refine ⟨⟨path.invariant ?_ agree,Single.failed_iff⟩,⟨multiPath.invariant ?_ multiAgree,Multi.failed_iff⟩⟩
  · rintro before label _ agree ⟨rfl,allowed⟩
    exact Single.step_agree agree label allowed
  · rintro before label _ agree ⟨rfl,allowed⟩
    exact Multi.step_agree agree label allowed

end runs

abbrev Row : Type := Record Nat Nat

def asIs (ρ : Type) : Codec ρ ρ := ⟨id,id⟩

def row : Row := Finmap.singleton 0 7

def guild : Store Nat Row Row := (Single.step (asIs Row) .done ⟨∅,∅⟩ (.add true 1 row)).1

def relics : Store Nat (Rows Nat Nat Nat) (Rows Nat Nat Nat) := (Multi.step (asIs _) .done ⟨∅,∅⟩ (.add 1 5 row)).1

-- An Add each, and then a Delete that the database rejects.
theorem rejected_deletes :
    (Agree (asIs Row) (Single.step (asIs Row) .badresult guild (.delete 1)).1 ∧
      ∀ op, (∀ answer, (Single.step (asIs Row) answer (Single.step (asIs Row) .badresult guild (.delete 1)).1 op).2 = some false →
        (Single.step (asIs Row) answer (Single.step (asIs Row) .badresult guild (.delete 1)).1 op).1.recordset =
          (Single.step (asIs Row) .badresult guild (.delete 1)).1.recordset) ↔
        Single.Harmless (Single.step (asIs Row) .badresult guild (.delete 1)).1 op) ∧
    (Agree (asIs (Rows Nat Nat Nat)) (Multi.step (asIs _) .badresult relics (.delete 1 none)).1 ∧
      ∀ op, (∀ answer, (Multi.step (asIs _) answer (Multi.step (asIs _) .badresult relics (.delete 1 none)).1 op).2 = some false →
        (Multi.step (asIs _) answer (Multi.step (asIs _) .badresult relics (.delete 1 none)).1 op).1.recordset =
          (Multi.step (asIs _) .badresult relics (.delete 1 none)).1.recordset) ↔
        Multi.Harmless (Multi.step (asIs _) .badresult relics (.delete 1 none)).1 op) := by
  have path : Runs (Guarded (fun s label t => t = (Single.step (asIs Row) label.1 s label.2).1) Single.Allowed) ⟨∅,∅⟩
      [(.done,.add true 1 row),(.badresult,.delete 1)] (Single.step (asIs Row) .badresult guild (.delete 1)).1 :=
    .more ⟨rfl,nofun,trivial⟩ (.more ⟨rfl,fun _ => trivial,trivial⟩ .done)
  have multiPath : Runs (Guarded (fun s label t => t = (Multi.step (asIs _) label.1 s label.2).1) Multi.Allowed) ⟨∅,∅⟩
      [(.done,.add 1 5 row),(.badresult,.delete 1 none)] (Multi.step (asIs _) .badresult relics (.delete 1 none)).1 :=
    .more ⟨rfl,nofun⟩ (.more ⟨rfl,fun _ => trivial⟩ .done)
  exact failures_harmless (fun _ => rfl) path (fun _ => rfl) multiPath

-- The database rejects the first row of a record and the memory has it all the same.
theorem rejected_add_stays :
    (Multi.step (asIs (Rows Nat Nat Nat)) .badresult ⟨∅,∅⟩ (.add 1 5 row)).2 = some false ∧
    (Multi.step (asIs (Rows Nat Nat Nat)) .badresult ⟨∅,∅⟩ (.add 1 5 row)).1.mysql = (∅ : Finmap (fun _ : Nat => Rows Nat Nat Nat)) ∧
    (Multi.step (asIs (Rows Nat Nat Nat)) .badresult ⟨∅,∅⟩ (.add 1 5 row)).1.recordset ≠ (∅ : Finmap (fun _ : Nat => Rows Nat Nat Nat)) := by
  exact ⟨rfl,rfl,RoleStore.insert_ne_empty 1 _ (∅ : Finmap (fun _ : Nat => Rows Nat Nat Nat))⟩

end CommonEntities
end OriginGame
